import OpaqueId.Proofs.Effects
import OpaqueId.Proofs.Scanning

/-! # Ranges: consecutive values, given by the first one and their number

    A range is minted value by value up to the first that fails, and so is a
    list of values (`mintRange_eq`).  The range form adds one check, that the
    number behind its last value still has 64 bits.  Where it has, a range and
    the list of its values cannot be told apart (`mintSequence_range`).

    The check asks too much by one: of the ranges whose values all have 64 bits
    it refuses those that end with the largest, whatever the scheme, and only
    those (`range_agrees_iff`, `last_value_refused`). -/

namespace OpaqueId.Session

open CommandLine (Sequence Format optionArgs rangeArgs numberLimit)

/-! ## Minting one after the other -/

/-- A range is minted as the list of its values. -/
theorem mintRange_eq (s : Scheme) (start count : Nat) (done : List Minted) :
    mintRange s start count done =
      ((List.range' start count).mapM (mintOne s)).map (done.reverse ++ ·) := by
  induction count generalizing start done with
  | zero => simp [mintRange, Except.map, pure, Except.pure]
  | succ count ih =>
      rw [mintRange, List.range'_succ, List.mapM_cons]
      cases hone : mintOne s start with
      | error failure => rfl
      | ok minted =>
          dsimp only
          rw [ih]
          -- what was minted before does not matter to whether the rest is minted
          cases (List.range' (start + 1) count).mapM (mintOne s) with
          | error failure => rfl
          | ok rest =>
              show Except.ok ((minted :: done).reverse ++ rest) =
                Except.ok (done.reverse ++ (minted :: rest))
              rw [List.reverse_cons, List.append_assoc, List.singleton_append]

theorem mintSequence_values {values : List Nat} (h : values ≠ []) (s : Scheme) :
    mintSequence s (.values values) = values.mapM (mintOne s) := by
  cases values with
  | nil => exact absurd rfl h
  | cons n values => rfl

/-- Where the number behind its last value has 64 bits, a range is minted value by
    value. -/
theorem mintSequence_range_eq {start count : Nat} (hend : start + count < numberLimit)
    (s : Scheme) :
    mintSequence s (.range start count) = (List.range' start count).mapM (mintOne s) := by
  rw [mintSequence, if_pos hend, mintRange_eq]
  cases (List.range' start count).mapM (mintOne s) <;> rfl

/-- Such a range is as good as the list of its values. -/
theorem mintSequence_range {start count : Nat} (hcount : 1 ≤ count)
    (hend : start + count < numberLimit) (s : Scheme) :
    mintSequence s (.range start count) =
      mintSequence s (.values (List.range' start count)) := by
  have hne : List.range' start count ≠ [] := by
    rw [Ne, List.range'_eq_nil_iff]
    omega
  rw [mintSequence_values hne, mintSequence_range_eq hend]

/-- A range is refused whose last value has no number behind it. -/
theorem mintSequence_range_beyond {start count : Nat} (hend : numberLimit ≤ start + count)
    (s : Scheme) :
    mintSequence s (.range start count) = .error (.rangeOverflow start count) := by
  rw [mintSequence, if_neg (Nat.not_lt.mpr hend)]

/-- A value that is not minted is refused by the scheme. -/
theorem exists_of_mintOne_error {s : Scheme} {value : Nat} {failure : Failure}
    (h : mintOne s value = .error failure) :
    ∃ refusal, s.mint value = .error refusal ∧ failure = .refused refusal := by
  obtain ⟨refusal, hmap, rfl⟩ := Except.mapError_eq_error_iff.mp h
  exact ⟨refusal, Except.map_eq_error_iff.mp hmap, rfl⟩

/-- A list of values is never refused as a range would be. -/
theorem mintSequence_values_ne (s : Scheme) (values : List Nat) (start count : Nat) :
    mintSequence s (.values values) ≠ .error (.rangeOverflow start count) := by
  intro h
  cases values with
  | nil => cases h
  | cons n values =>
      rw [mintSequence_values (List.cons_ne_nil n values)] at h
      obtain ⟨_, m, _, -, -, hone⟩ := Except.mapM_eq_error_iff.mp h
      obtain ⟨refusal, -, hrefusal⟩ := exists_of_mintOne_error hone
      cases hrefusal

/-! ## Both forms as command lines -/

/-- A report of failure alone is that of a computation that failed. -/
theorem ofExcept_eq_fail {e : Except Failure String} {failure : Failure}
    (h : Report.ofExcept e = .fail failure) : e = .error failure := by
  have hfailure : (Report.ofExcept e).failure = some failure := congrArg Report.failure h
  cases e with
  | ok output => cases hfailure
  | error other =>
      cases hfailure
      rfl

section

variable [PatternCompiler] (p : Place) {d : Disk} {file : StoredFile}
  {environment given saved : Settings} {s : Scheme}

/-- What a command line that mints leaves and reports, once its scheme is found. -/
theorem stepOn_mint {args : List String} {sequence : Sequence} {format : Format} {verbose : Bool}
    (hparse : CommandLine.parse environment args =
      .ok ⟨.ask (.mint sequence), format, given, verbose⟩)
    (hload : d.load file = .ok saved)
    (hscheme : (given.orElse saved).resolveScheme = .ok s) :
    stepOn p d file environment args =
      (file, .report (.ofExcept ((mintSequence s sequence).map (showMinted · format)))) := by
  rw [stepOn_ask p d file environment args hparse hload]
  simp only [answer, hscheme]
  show (file, Outcome.report (.ofExcept ((mintSequence s sequence).bind _))) = _
  cases mintSequence s sequence <;> rfl

/-- **A range agrees with the list of its values**, in what it prints, in how it
    fails and in its exit code, for every scheme, format and 64-bit first value and
    number of values whose last value has 64 bits too, unless the last value is the
    largest there is: a range that ends with it is always refused for its length,
    and the list of its values never is. -/
theorem range_agrees_iff (hload : d.load file = .ok saved)
    (hscheme : ((given.orElse environment).orElse saved).resolveScheme = .ok s)
    (format : Option String) (verbose : Bool) (start count : UInt64) (hcount : 1 ≤ count.toNat)
    (hlast : start.toNat + (count.toNat - 1) < UInt64.size) :
    (stepOn p d file environment
          (optionArgs given format verbose ++ "mint" :: rangeArgs start.toNat count.toNat) =
        stepOn p d file environment
          (optionArgs given format verbose ++
            "mint" :: (List.range' start.toNat count.toNat).map toString) ↔
      start.toNat + count.toNat ≠ UInt64.size) ∧
    (start.toNat + count.toNat = UInt64.size →
      stepOn p d file environment
          (optionArgs given format verbose ++ "mint" :: rangeArgs start.toNat count.toNat) =
        (file, .report (.fail (.rangeOverflow start.toNat count.toNat)))) := by
  -- every value of the list is a number that can be read
  have hvalues : ∀ n ∈ List.range' start.toNat count.toNat, n < numberLimit := by
    intro n hn
    rw [List.mem_range'_1] at hn
    show n < UInt64.size
    omega
  have hrange := stepOn_mint p (CommandLine.parse_rangeArgs environment given format verbose
    start.toNat_lt count.toNat_lt) hload hscheme
  have hlist := stepOn_mint p (CommandLine.parse_valuesArgs environment given format verbose
    hvalues) hload hscheme
  by_cases hend : start.toNat + count.toNat = UInt64.size
  · rw [mintSequence_range_beyond (Nat.le_of_eq hend.symm)] at hrange
    refine ⟨iff_of_false (fun h => ?_) (fun hne => hne hend), fun _ => hrange⟩
    rw [hrange, hlist] at h
    -- the list would report the range as too long, which no list of values does
    have hreport := Outcome.report.inj (Prod.mk.inj h).2
    have hfailure := Except.map_eq_error_iff.mp (ofExcept_eq_fail hreport.symm)
    exact mintSequence_values_ne s _ _ _ hfailure
  · have hlt : start.toNat + count.toNat < numberLimit := by
      show _ < UInt64.size
      omega
    refine ⟨iff_of_true ?_ hend, fun h => absurd h hend⟩
    rw [hrange, hlist, mintSequence_range hcount hlt]

end

section

open scoped SizeLimit

/-- Both forms stop at the hundred identifiers of `bc.sdd`, and both write the same
    records where `bc.zd` comes to the last value but one; with the last value the
    range is something else. -/
theorem ranges_agree :
    step ⟨"/noid"⟩ .absent .empty
          ["--template=bc.sdd", "mint", "--start", "98", "--count", "3"] =
        step ⟨"/noid"⟩ .absent .empty ["--template=bc.sdd", "mint", "98", "99", "100"] ∧
      step ⟨"/noid"⟩ .absent .empty ["--template=bc.zd", "--format=json", "mint",
          "--start", "18446744073709551613", "--count", "2"] =
        step ⟨"/noid"⟩ .absent .empty ["--template=bc.zd", "--format=json", "mint",
          "18446744073709551613", "18446744073709551614"] ∧
      step ⟨"/noid"⟩ .absent .empty ["--template=bc.zd", "mint",
          "--start", "18446744073709551614", "--count", "2"] ≠
        step ⟨"/noid"⟩ .absent .empty ["--template=bc.zd", "mint",
          "18446744073709551614", "18446744073709551615"] := by
  have hload : Disk.sound.load .absent = .ok .empty := rfl
  have hbounded : ∃ s, Settings.resolveScheme
      (((⟨some "bc.sdd", none⟩ : Settings).orElse .empty).orElse .empty) = .ok s := ⟨_, rfl⟩
  have hunbounded : ∃ s, Settings.resolveScheme
      (((⟨some "bc.zd", none⟩ : Settings).orElse .empty).orElse .empty) = .ok s := ⟨_, rfl⟩
  obtain ⟨s, hs⟩ := hbounded
  obtain ⟨s', hs'⟩ := hunbounded
  have hsmall := range_agrees_iff ⟨"/noid"⟩ hload hs none false 98 3 (by decide) (by decide)
  have hlarge := range_agrees_iff ⟨"/noid"⟩ hload hs' (some "json") false
    18446744073709551613 2 (by decide) (by decide)
  have hlast := range_agrees_iff ⟨"/noid"⟩ hload hs' none false 18446744073709551614
    2 (by decide) (by decide)
  exact ⟨hsmall.1.mpr (by decide), hlarge.1.mpr (by decide), fun h => hlast.1.mp h (by decide)⟩

/-- The largest value is minted, and the range of that value alone is refused. -/
theorem last_value_refused :
    step ⟨"/noid"⟩ .absent .empty
          ["--template=bc.zd", "mint", "--start", "18446744073709551615", "--count", "1"] =
        (.absent, .report (.fail (.rangeOverflow 18446744073709551615 1))) ∧
      step ⟨"/noid"⟩ .absent .empty ["--template=bc.zd", "mint", "18446744073709551615"] =
        (.absent, .report (.success "bc18446744073709551615\n")) := by
  refine ⟨rfl, ?_⟩
  decide +kernel

end

end OpaqueId.Session
