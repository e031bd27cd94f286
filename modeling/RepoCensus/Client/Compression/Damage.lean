/-!
# Damaged data

Why compressed data cannot be put back into its first form.
-/

namespace RepoCensus.Compression

/-- What is wrong with compressed data. -/
inductive Damage where
  | header
  | method
  | headerFlags
  | headerChecksum
  /-- The data would need a window that is too large. -/
  | window
  | dictionary
  | blockKind
  /-- The two lengths of a plain block do not agree. -/
  | plainLength
  | symbolCount
  /-- The lengths of the codes for lengths make no code. -/
  | lengthCode
  /-- A length is repeated that is not there, or too often. -/
  | repetition
  | noEnd
  | letterCode
  | distanceCode
  | letter
  | distance
  | tooFarBack
  | checksum
  | length
deriving Repr, DecidableEq

namespace Damage

/-- What is told of a damage, nothing for a missing dictionary. -/
def detail? : Damage → Option String
  | header => some "incorrect header check"
  | method => some "unknown compression method"
  | headerFlags => some "unknown header flags set"
  | headerChecksum => some "header crc mismatch"
  | window => some "invalid window size"
  | dictionary => none
  | blockKind => some "invalid block type"
  | plainLength => some "invalid stored block lengths"
  | symbolCount => some "too many length or distance symbols"
  | lengthCode => some "invalid code lengths set"
  | repetition => some "invalid bit length repeat"
  | noEnd => some "invalid code -- missing end-of-block"
  | letterCode => some "invalid literal/lengths set"
  | distanceCode => some "invalid distances set"
  | letter => some "invalid literal/length code"
  | distance => some "invalid distance code"
  | tooFarBack => some "invalid distance too far back"
  | checksum => some "incorrect data check"
  | length => some "incorrect length check"

def message (d : Damage) : String :=
  match d.detail? with
  | some detail => "Error -3 while decompressing data: " ++ detail
  | none => "Error 2 while decompressing data"

end Damage

end RepoCensus.Compression
