import OpaqueId.CommandLine.Scan
import OpaqueId.Proofs.Computations

/-! # Recording: what is known of a level when it is judged

    What a command line gives is recorded bit by bit, so a property that every
    single recording keeps (`Kept`) holds of what the innermost level was given
    when it is judged.  There the judge is asked, and nowhere else: any other
    judge that accepts the same level ends the scan with its own result.

    Main statement: `Kept.judged`. -/

namespace OpaqueId.CommandLine

/-- A property that holds where nothing is given and that every recording keeps. -/
structure Kept (P : Given → Prop) : Prop where
  nothing : P .nothing
  record : ∀ {g g' : Given} {key : Key} {text : String}, P g → g.record key text = .ok g' → P g'
  recordOperands : ∀ {g g' : Given} {kind : Operands} {texts : List String}, P g →
    g.recordOperands kind texts = .ok g' → P g'
  verbose : ∀ {g : Given}, P g → P { g with verbose := true }

namespace Kept

variable {P : Given → Prop} (hkept : Kept P) {s s' : Scan}

include hkept

/-- What is pending is recorded: the value of an option, or the operands read so far. -/
theorem settle (hs : P s.given) (h : s.settle = .ok s') : P s'.given := by
  rw [Scan.settle] at h
  split at h
  · cases h
    exact hs
  · cases h
  · obtain ⟨g, hrecord, rfl⟩ := Except.map_eq_ok_iff.mp h
    exact hkept.record hs hrecord
  · obtain ⟨g, hrecord, rfl⟩ := Except.map_eq_ok_iff.mp h
    exact hkept.recordOperands hs hrecord

/-- An attached value is recorded behind what is pending. -/
theorem attach {key : Key} {text : String} (hs : P s.given) (h : s.attach key text = .ok s') :
    P s'.given := by
  rw [Scan.attach] at h
  obtain ⟨settled, hsettle, h⟩ := Except.bind_eq_ok_iff.mp h
  obtain ⟨g, hrecord, hs'⟩ := Except.bind_eq_ok_iff.mp h
  cases hs'
  exact hkept.record (hkept.settle hs hsettle) hrecord

theorem await {key : Key} (hs : P s.given) (h : s.await key = .ok s') : P s'.given := by
  obtain ⟨settled, hsettle, rfl⟩ := Except.map_eq_ok_iff.mp h
  have hsettled := hkept.settle hs hsettle
  exact hsettled

/-- The one flag that does not end the scan is `--verbose`. -/
theorem raise {flag : Flag} (hs : P s.given) (h : s.raise flag = .ok s') : P s'.given := by
  rw [Scan.raise] at h
  obtain ⟨settled, hsettle, h⟩ := Except.bind_eq_ok_iff.mp h
  cases flag with
  | help | version => cases h
  | verbose =>
      dsimp only at h
      split at h
      · cases h
      · cases h
        exact hkept.verbose (hkept.settle hs hsettle)

/-- A long option records its value, if it has one with it, or waits for one. -/
theorem long {name : String} {value : Option String} (hs : P s.given)
    (h : s.long name value = .ok s') : P s'.given := by
  unfold Scan.long at h
  split at h
  · cases h
  · cases h
  · exact hkept.raise hs h
  · exact hkept.attach hs h
  · exact hkept.await hs h

/-- Letters behind one dash are flags up to the first option, and the rest is its value. -/
theorem short {letters : List Char} (hs : P s.given) (h : s.short letters = .ok s') :
    P s'.given := by
  induction letters generalizing s with
  | nil =>
      cases h
      exact hs
  | cons c rest ih =>
      rw [Scan.short] at h
      split at h
      · cases h
      · split at h
        · cases h
        · rename_i hraise
          exact ih (hkept.raise hs hraise) h
      · split at h
        · exact hkept.await hs h
        · exact hkept.attach hs h
        · exact hkept.attach hs h

theorem addOperand {arg : String} (hs : P s.given) (h : s.addOperand arg = .ok s') :
    P s'.given := by
  rw [Scan.addOperand] at h
  split at h
  · cases h
    exact hs
  · obtain ⟨settled, hsettle, rfl⟩ := Except.map_eq_ok_iff.mp h
    have hsettled := hkept.settle hs hsettle
    exact hsettled

/-- An operand waits to be recorded with those behind it, unless it names a command. -/
theorem operand {arg : String} (hs : P s.given) (h : s.operand arg = .ok s') : P s'.given := by
  rw [Scan.operand] at h
  split at h
  · split at h <;> cases h
  · split at h
    · cases h
    · exact hkept.addOperand hs h
  · exact hkept.addOperand hs h
  · exact hkept.addOperand hs h

/-- A scan that succeeds asks its judge once, about something of which all that is kept
    holds, and goes the same way under every judge that accepts that. -/
theorem judged {α : Type} {finish : Level → Given → Except Usage α} {args : List String}
    {result : α × Given} (hs : P s.given) (h : scan finish s args = .ok result) :
    ∃ l g, P g ∧ finish l g = .ok result.1 ∧
      ∀ {β : Type} {finish' : Level → Given → Except Usage β} {b : β},
        finish' l g = .ok b → scan finish' s args = .ok (b, result.2) := by
  induction args generalizing s result with
  | nil =>
      rw [scan] at h
      cases hsettle : s.settle with
      | error u =>
          rw [hsettle] at h
          cases h
      | ok settled =>
          rw [hsettle] at h
          obtain ⟨a, hjudge, rfl⟩ := Except.map_eq_ok_iff.mp h
          refine ⟨_, _, hkept.settle hs hsettle, hjudge, fun hother => ?_⟩
          rw [scan, hsettle]
          exact Except.map_eq_ok_iff.mpr ⟨_, hother, rfl⟩
  | cons arg args ih =>
      -- apart from commands, an argument leads every judge to the same scan of the rest
      have hgo : ∀ next : Scan, P next.given →
          (∀ {β : Type} (finish' : Level → Given → Except Usage β),
            scan finish' s (arg :: args) = scan finish' next args) →
          ∃ l g, P g ∧ finish l g = .ok result.1 ∧
            ∀ {β : Type} {finish' : Level → Given → Except Usage β} {b : β},
              finish' l g = .ok b →
                scan finish' s (arg :: args) = .ok (b, result.2) := by
        intro next hnext hscan
        rw [hscan] at h
        obtain ⟨l, g, hg, hjudge, hothers⟩ := ih hnext h
        exact ⟨l, g, hg, hjudge, fun hother => (hscan _).trans (hothers hother)⟩
      cases hword : s.word arg with
      | help =>
          rw [scan, hword] at h
          cases h
      | command l =>
          rw [scan, hword] at h
          dsimp only at h
          cases hinner : scan finish (.start l) args with
          | error u =>
              rw [hinner] at h
              cases h
          | ok inner =>
              rw [hinner] at h
              obtain ⟨outer, hsettle, rfl⟩ := Except.map_eq_ok_iff.mp h
              -- a level below starts with nothing given
              obtain ⟨l', g, hg, hjudge, hothers⟩ := ih (s := .start l) hkept.nothing hinner
              refine ⟨l', g, hg, hjudge, fun hother => ?_⟩
              rw [scan, hword]
              dsimp only
              rw [hothers hother]
              exact Except.map_eq_ok_iff.mpr ⟨outer, hsettle, rfl⟩
      | divider => exact hgo { s with plain := true } hs fun _ => by rw [scan, hword]
      | value key =>
          exact hgo { s with pending := .key key (some arg) } hs
            fun _ => by rw [scan, hword]
      | operand =>
          cases hnext : s.operand arg with
          | error u =>
              rw [scan, hword] at h
              simp only [hnext, reduceCtorEq] at h
          | ok next =>
              refine hgo next (hkept.operand hs hnext) fun _ => ?_
              rw [scan, hword]
              simp only [hnext]
      | long name value =>
          cases hnext : s.long name value with
          | error u =>
              rw [scan, hword] at h
              simp only [hnext, reduceCtorEq] at h
          | ok next =>
              refine hgo next (hkept.long hs hnext) fun _ => ?_
              rw [scan, hword]
              simp only [hnext]
      | short letters =>
          cases hnext : s.short letters with
          | error u =>
              rw [scan, hword] at h
              simp only [hnext, reduceCtorEq] at h
          | ok next =>
              refine hgo next (hkept.short hs hnext) fun _ => ?_
              rw [scan, hword]
              simp only [hnext]

end Kept

end OpaqueId.CommandLine
