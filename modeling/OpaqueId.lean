import OpaqueId.Main
import OpaqueId.Serial
import OpaqueId.Proofs.Computations
import OpaqueId.Proofs.MixedRadix
import OpaqueId.Proofs.Symbols
import OpaqueId.Proofs.CheckSymbol
import OpaqueId.Proofs.Shape
import OpaqueId.Proofs.Carrying
import OpaqueId.Proofs.Pattern
import OpaqueId.Proofs.Diagnosis
import OpaqueId.Proofs.Numeral
import OpaqueId.Proofs.Encoding
import OpaqueId.Proofs.RoundTrip
import OpaqueId.Proofs.Decoding
import OpaqueId.Proofs.Balance
import OpaqueId.Proofs.Places
import OpaqueId.Proofs.ErrorDetection
import OpaqueId.Proofs.SavedText
import OpaqueId.Proofs.Effects
import OpaqueId.Proofs.SavedSettings
import OpaqueId.Proofs.Grammar
import OpaqueId.Proofs.Reading
import OpaqueId.Proofs.Counting
import OpaqueId.Proofs.Generators
import OpaqueId.Proofs.CheckLayer
import OpaqueId.Proofs.Ordering
import OpaqueId.Proofs.Scanning
import OpaqueId.Proofs.Changes
import OpaqueId.Proofs.Ranges
import OpaqueId.Proofs.Batches
import OpaqueId.Proofs.Exhaustion
import OpaqueId.Proofs.Defaults
import OpaqueId.Proofs.Spelling
import OpaqueId.Proofs.Origins
import OpaqueId.Proofs.SerialForms
import OpaqueId.Proofs.WordArithmetic
import OpaqueId.Proofs.Saving
import OpaqueId.Proofs.Lookup
import OpaqueId.Proofs.Guards
import OpaqueId.Proofs.Growth
import OpaqueId.Proofs.UniformMask
import OpaqueId.Proofs.PatternSize
import OpaqueId.Proofs.Logs
import OpaqueId.Proofs.Grid
import OpaqueId.Proofs.Printing
