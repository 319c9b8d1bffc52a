import SensorGateway.Lib.JsonText
import SensorGateway.Storage.Reread

/-! `serde_json` on the records of storage: what its texts have to do with the JSON they stand for. It
prints a number so that no other one has the text, but parses it fast and not always to the last bit.
Serializers over numbers without rounding show that there are such. -/

namespace SensorGateway.Storage.Texts
open SensorGateway.Lib.Codec SensorGateway.Lib.ExtendedRat SensorGateway.Lib.Json
open SensorGateway.Lib.JsonText SensorGateway.Lib.Lines SensorGateway.Types Persist Encoding Reread

/-- How deep `serde_json` follows a text. -/
def recursionLimit : Nat := 127

structure SerdeJson (F : Type) [F64 F] where
  /-- `to_string` and `to_vec`. -/
  toText : Value F → Text
  /-- `from_str` and `from_slice` for a `Value`. -/
  toValue : Text → Option (Value F)
  /-- `from_str` for an `AggregatedFrame`. -/
  toFrame : Text → Option (AggregatedFrame F)
  /-- What the text of a number is parsed as: without the feature `float_roundtrip` the number itself or
  one close to it. -/
  reread : FiniteF64 F → FiniteF64 F
  toText_injective : Function.Injective toText
  toValue_toText : ∀ v, toValue (toText v) =
    if v.depth ≤ recursionLimit then some (v.map reread).canonical else none
  toFrame_toText : ∀ frame v, encodeFrame frame = some v →
    toFrame (toText v) = decodeFrame (v.map reread)
  /-- White space behind a value is skipped. -/
  toValue_return : IgnoresReturns toValue
  toFrame_return : IgnoresReturns toFrame
  toValue_blank : ∀ text, isBlank text = true → toValue text = none
  /-- Control characters are escaped. -/
  plain : ∀ v, Plain (toText v)
  brace : ∀ members, '{' ∈ toText (.object members)

namespace SerdeJson
variable {F : Type} [F64 F] (json : SerdeJson F)

def frameText (frame : AggregatedFrame F) : Option Text := (encodeFrame frame).map json.toText

theorem frameText_eq_some {frame : AggregatedFrame F} {line : Text} :
    json.frameText frame = some line ↔ ∃ v, encodeFrame frame = some v ∧ json.toText v = line :=
  Option.map_eq_some_iff

theorem frameText_compact {frame : AggregatedFrame F} {line : Text}
    (written : json.frameText frame = some line) : '\n' ∉ line ∧ '\r' ∉ line ∧ '{' ∈ line := by
  obtain ⟨v, encoded, rfl⟩ := json.frameText_eq_some.mp written
  obtain ⟨-, -, -, -, -, -, rfl⟩ := encodeFrame_eq_some encoded
  refine ⟨?_, ?_, json.brace _⟩
  · exact fun bad => absurd (json.plain _ '\n' bad) (by decide)
  · exact fun bad => absurd (json.plain _ '\r' bad) (by decide)

/-- The serializer the storage worker runs with. -/
def serde : Serde F (Value F) where
  frame := json.frameText
  value := fun v => some (json.toText v)
  snapshot := fun frame stats =>
    (encodeFrame frame).map fun latest => json.toText (encodeSnapshot latest stats)
  index := fun index => some (json.toText (encodeIndex index))
  compact := fun _ _ written => json.frameText_compact written
  pairable := by
    intro frame line stats written
    obtain ⟨v, encoded, -⟩ := json.frameText_eq_some.mp written
    exact ⟨json.toText (encodeSnapshot v stats), by rw [encoded, Option.map_some]⟩
  indexable := fun index => ⟨json.toText (encodeIndex index), rfl⟩

/-- A frame as it is read back from its text. -/
def rereadFrame (frame : AggregatedFrame F) : AggregatedFrame F := Reread.rereadFrame json.reread frame

/-- Every number is read back as it is. -/
def RoundTrips : Prop := ∀ x, json.reread x = x

variable {json} in
theorem RoundTrips.rereadFrame (exact : json.RoundTrips) (frame : AggregatedFrame F) :
    json.rereadFrame frame = frame :=
  rereadFrame_of_fixed exact frame

theorem encodeFrame_reread {frame : AggregatedFrame F} {v : Value F}
    (encoded : encodeFrame frame = some v) :
    encodeFrame (json.rereadFrame frame) = some (v.map json.reread) := by
  rw [rereadFrame, Reread.encodeFrame_reread, encoded, Option.map_some]

/-- A line of the log gives its frame back unless one of the numbers has been lost. -/
theorem toFrame_frameText : ReadsAs json.frameText json.toFrame Written json.rereadFrame := by
  intro frame line written
  obtain ⟨v, encoded, rfl⟩ := json.frameText_eq_some.mp written
  have again := json.encodeFrame_reread encoded
  rw [json.toFrame_toText frame v encoded, decodeFrame_encodeFrame _ _ again, rereadFrame]
  simp only [written_reread]

theorem toValue_frame {frame : AggregatedFrame F} {v : Value F} (encoded : encodeFrame frame = some v) :
    json.toValue (json.toText v) = some (v.map json.reread).canonical := by
  have shallow := depth_encodeFrame encoded
  rw [json.toValue_toText, if_pos (Nat.le_trans shallow (by decide))]

end SerdeJson

/-! The exact serializer. A whole number is written with a decimal place, any other as a fraction. -/

def rational : FiniteF64 Extended → ℚ
  | ⟨.finite q, _⟩ => q

def ofRational (q : ℚ) : FiniteF64 Extended := ⟨.finite q, rfl⟩

def rationalText (q : ℚ) : Text :=
  intText q.num ++ if q.den = 1 then ['.', '0'] else '/' :: Nat.toDigits 10 q.den

/-- A character in front of the decimal point or the stroke. -/
def isLeading (c : Char) : Bool := c != '.' && c != '/'

def readRational (text : Text) : Option ℚ := do
  let num ← readInt (text.takeWhile isLeading)
  match text.dropWhile isLeading with
  | ['.', '0'] => some num
  | '/' :: digits => (readNat digits).map fun den => mkRat num den
  | _ => none

theorem intText_leading (value : Int) : ∀ c ∈ intText value, isLeading c = true := by
  have digits (n : Nat) : ∀ c ∈ Nat.toDigits 10 n, isLeading c = true := by
    intro c member
    have digit := Nat.isDigit_of_mem_toDigits (by decide) (by decide) member
    rw [isLeading, Bool.and_eq_true, bne_iff_ne, bne_iff_ne]
    constructor <;> rintro rfl <;> exact absurd digit (by decide)
  cases value with
  | ofNat n => exact digits n
  | negSucc n =>
    intro c member
    rcases List.mem_cons.mp member with rfl | behind
    · rfl
    · exact digits (n + 1) c behind

theorem readRational_marked (num : Int) {mark : Char} (marks : isLeading mark = false)
    (behind : Text) :
    readRational (intText num ++ mark :: behind) =
      match mark :: behind with
      | ['.', '0'] => some (num : ℚ)
      | '/' :: digits => (readNat digits).map fun den => mkRat num den
      | _ => none := by
  have stops : ¬isLeading mark = true := by rw [marks]; exact Bool.false_ne_true
  rw [readRational, List.takeWhile_append_of_pos (intText_leading num),
    List.dropWhile_append_of_pos (intText_leading num), List.takeWhile_cons_of_neg stops,
    List.dropWhile_cons_of_neg stops, List.append_nil, readInt_intText]
  rfl

theorem readRational_text (q : ℚ) : readRational (rationalText q) = some q := by
  unfold rationalText
  by_cases whole : q.den = 1
  · rw [if_pos whole, readRational_marked q.num rfl]
    exact congrArg some (Rat.den_eq_one_iff q |>.mp whole)
  · rw [if_neg whole, readRational_marked q.num rfl]
    simp only [readNat_toDigits, Option.map_some, Rat.mkRat_self]

theorem rationalText_numeric (q : ℚ) : ∀ c ∈ rationalText q, isNumeric c = true := by
  intro c member
  obtain front | back := List.mem_append.mp member
  · exact intText_numeric q.num c front
  · split at back
    · rcases List.mem_pair.mp back with rfl | rfl
      · rfl
      · rfl
    · rcases List.mem_cons.mp back with rfl | digit
      · rfl
      · rw [isNumeric, Nat.isDigit_of_mem_toDigits (by decide) (by decide) digit, Bool.true_or]

theorem rationalText_marked (q : ℚ) : ∃ c ∈ rationalText q, c.isDigit = false ∧ c ≠ '-' := by
  unfold rationalText
  split
  · exact ⟨'.', by simp, by decide, by decide⟩
  · exact ⟨'/', by simp, by decide, by decide⟩

theorem ofRational_rational (x : FiniteF64 Extended) : ofRational (rational x) = x := by
  obtain ⟨x, finite⟩ := x
  cases x with
  | finite q => rfl
  | infinity | negInfinity | nan => cases finite

instance exactFloatText : FloatText (FiniteF64 Extended) where
  text := fun x => rationalText (rational x)
  read := fun text => (readRational text).map ofRational
  read_text := by
    intro x
    rw [readRational_text, Option.map_some, ofRational_rational]
  numeric := fun x => rationalText_numeric (rational x)
  marked := fun x => rationalText_marked (rational x)

/-- A text that is one value and white space. -/
def readText (text : Text) : Option (Value Extended) :=
  if isBlank text then none else read (trimReturns text)

theorem readText_print (v : Value Extended) : readText (print v) = some v := by
  have clean : '\r' ∉ print v := fun bad => absurd (plain_print v '\r' bad) (by decide)
  rw [readText, isBlank_print, if_neg Bool.false_ne_true, trimReturns_of_not_mem clean, read_print]

theorem readText_return : IgnoresReturns readText := by
  intro text
  have trimmed : trimReturns (text ++ ['\r']) = trimReturns text := by
    rw [trimReturns, List.rdropWhile_concat_pos _ _ _ rfl, trimReturns]
  have white : isBlank ['\r'] = true := rfl
  rw [readText, readText, trimmed, isBlank_append, white, Bool.and_true]

/-- A serializer with a parser that makes the given number of each number. -/
def rationalJson (reread : FiniteF64 Extended → FiniteF64 Extended) : SerdeJson Extended where
  toText := print
  toValue := fun text => (readText text).bind fun v =>
    if v.depth ≤ recursionLimit then some (v.map reread).canonical else none
  toFrame := fun text => (readText text).bind fun v => decodeFrame (v.map reread)
  reread := reread
  toText_injective := by
    intro v w same
    have read := readText_print v
    rw [same, readText_print] at read
    exact (Option.some.inj read).symm
  toValue_toText := by
    intro v
    rw [readText_print, Option.bind_some]
  toFrame_toText := by
    intro frame v _
    rw [readText_print, Option.bind_some]
  toValue_return := by
    intro text
    simp only [readText_return text]
  toFrame_return := by
    intro text
    simp only [readText_return text]
  toValue_blank := by
    intro text blank
    rw [readText, if_pos blank, Option.bind_none]
  plain := plain_print
  brace := brace_mem_print

def exactJson : SerdeJson Extended := rationalJson id

theorem exactJson_roundTrips : exactJson.RoundTrips := fun _ => rfl

/-- The number that is printed as `51.248178375505404`. -/
def printed : ℚ := 225391872104827 / 2 ^ 42

/-- What this text is parsed as, one unit in the last place above it. -/
def parsed : ℚ := 7212539907354465 / 2 ^ 47

/-- A serializer that reads this number as `serde_json` does. -/
def roundingJson : SerdeJson Extended :=
  rationalJson fun x => if rational x = printed then ofRational parsed else x

theorem rereadF64_rounding (q : ℚ) :
    rereadF64 roundingJson.reread (.finite q) = .finite (if q = printed then parsed else q) := by
  have finite : F64.isFinite (Extended.finite q) = true := rfl
  rw [rereadF64, dif_pos finite]
  show ((if q = printed then ofRational parsed else ⟨.finite q, finite⟩ : FiniteF64 Extended).1) = _
  split <;> rfl

end SensorGateway.Storage.Texts
