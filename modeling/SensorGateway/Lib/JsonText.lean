import SensorGateway.Lib.Json
import SensorGateway.Lib.Lines

/-! Compact JSON text: what a tree is written as, a reader for such texts, and that the reader gets the
tree back. How a floating-point number is written is left open. -/

namespace SensorGateway.Lib.JsonText
open SensorGateway.Lib.Json SensorGateway.Lib.Lines

/-- A character of a number. -/
def isNumeric (c : Char) : Bool := c.isDigit || c ∈ ['-', '+', '.', 'e', 'E', '/']

/-- A way to write floating-point numbers that no integer is written in. -/
class FloatText (N : Type) where
  text : N → Text
  read : Text → Option N
  read_text : ∀ x, read (text x) = some x
  numeric : ∀ x, ∀ c ∈ text x, isNumeric c = true
  marked : ∀ x, ∃ c ∈ text x, c.isDigit = false ∧ c ≠ '-'

def backspace : Char := Char.ofNat 8

def formFeed : Char := Char.ofNat 12

def escape (c : Char) : Text :=
  if c = '"' then ['\\', '"']
  else if c = '\\' then ['\\', '\\']
  else if c = '\n' then ['\\', 'n']
  else if c = '\r' then ['\\', 'r']
  else if c = '\t' then ['\\', 't']
  else if c = backspace then ['\\', 'b']
  else if c = formFeed then ['\\', 'f']
  else if c.toNat < 32 then
    ['\\', 'u', '0', '0', Nat.digitChar (c.toNat / 16), Nat.digitChar (c.toNat % 16)]
  else [c]

def quote (s : String) : Text := '"' :: s.toList.flatMap escape ++ ['"']

def intText : Int → Text
  | .ofNat n => Nat.toDigits 10 n
  | .negSucc n => '-' :: Nat.toDigits 10 (n + 1)

variable {N : Type} [FloatText N]

-- The closing bracket belongs to the items behind the first one.
mutual
def print : Document N → Text
  | .null => ['n', 'u', 'l', 'l']
  | .bool true => ['t', 'r', 'u', 'e']
  | .bool false => ['f', 'a', 'l', 's', 'e']
  | .int value => intText value
  | .float value => FloatText.text value
  | .string value => quote value
  | .array [] => ['[', ']']
  | .array (item :: rest) => '[' :: (print item ++ printItems rest)
  | .object [] => ['{', '}']
  | .object ((name, value) :: rest) =>
    '{' :: (quote name ++ ':' :: (print value ++ printMembers rest))

def printItems : List (Document N) → Text
  | [] => [']']
  | item :: rest => ',' :: (print item ++ printItems rest)

def printMembers : List (String × Document N) → Text
  | [] => ['}']
  | (name, value) :: rest => ',' :: (quote name ++ ':' :: (print value ++ printMembers rest))
end

def hexValue (c : Char) : Nat :=
  if c.isDigit then c.toNat - '0'.toNat else c.toNat - 'a'.toNat + 10

def unescape : Char → Char
  | 'n' => '\n'
  | 'r' => '\r'
  | 't' => '\t'
  | 'b' => backspace
  | 'f' => formFeed
  | c => c

/-- A string behind its opening quotation mark, and what follows the closing one. -/
def unquote : Text → Option (Text × Text)
  | [] => none
  | '"' :: rest => some ([], rest)
  | '\\' :: 'u' :: _ :: _ :: high :: low :: rest =>
    (unquote rest).map (Prod.map (Char.ofNat (16 * hexValue high + hexValue low) :: ·) id)
  | '\\' :: c :: rest => (unquote rest).map (Prod.map (unescape c :: ·) id)
  | c :: rest => (unquote rest).map (Prod.map (c :: ·) id)

def readNat (digits : Text) : Option Nat :=
  if digits ≠ [] ∧ digits.all Char.isDigit then some (Nat.ofDigitChars 10 digits 0) else none

def readInt : Text → Option Int
  | '-' :: digits => (readNat digits).map fun n => -(n : Int)
  | digits => (readNat digits).map Int.ofNat

def readNumber (token : Text) : Option (Document N) :=
  match readInt token with
  | some value => some (.int value)
  | none => (FloatText.read token).map .float

mutual
/-- A value at the front of the text, and what follows it. -/
def parse : Nat → Text → Option (Document N × Text)
  | 0, _ => none
  | fuel + 1, text =>
    match text with
    | 'n' :: 'u' :: 'l' :: 'l' :: rest => some (.null, rest)
    | 't' :: 'r' :: 'u' :: 'e' :: rest => some (.bool true, rest)
    | 'f' :: 'a' :: 'l' :: 's' :: 'e' :: rest => some (.bool false, rest)
    | '"' :: rest => (unquote rest).map (Prod.map (fun s => .string (String.ofList s)) id)
    | '[' :: ']' :: rest => some (.array [], rest)
    | '[' :: rest => do
      let (item, rest) ← parse fuel rest
      let (items, rest) ← parseItems fuel rest
      some (.array (item :: items), rest)
    | '{' :: '}' :: rest => some (.object [], rest)
    | '{' :: rest => do
      let (first, rest) ← parseMember fuel rest
      let (members, rest) ← parseMembers fuel rest
      some (.object (first :: members), rest)
    | text => (readNumber (text.takeWhile isNumeric)).map fun value => (value, text.dropWhile isNumeric)

def parseItems : Nat → Text → Option (List (Document N) × Text)
  | 0, _ => none
  | fuel + 1, text =>
    match text with
    | ']' :: rest => some ([], rest)
    | ',' :: rest => do
      let (item, rest) ← parse fuel rest
      let (items, rest) ← parseItems fuel rest
      some (item :: items, rest)
    | _ => none

def parseMember : Nat → Text → Option ((String × Document N) × Text)
  | 0, _ => none
  | fuel + 1, text =>
    match text with
    | '"' :: rest => do
      let (name, rest) ← unquote rest
      match rest with
      | ':' :: rest =>
        let (value, rest) ← parse fuel rest
        some ((String.ofList name, value), rest)
      | _ => none
    | _ => none

def parseMembers : Nat → Text → Option (List (String × Document N) × Text)
  | 0, _ => none
  | fuel + 1, text =>
    match text with
    | '}' :: rest => some ([], rest)
    | ',' :: rest => do
      let (first, rest) ← parseMember fuel rest
      let (members, rest) ← parseMembers fuel rest
      some (first :: members, rest)
    | _ => none
end

/-- A text that is one value. -/
def read (text : Text) : Option (Document N) :=
  match parse text.length text with
  | some (value, []) => some value
  | _ => none

theorem hexValue_digitChar : ∀ n < 16, hexValue (Nat.digitChar n) = n := by decide

theorem unquote_escape (c : Char) (rest : Text) :
    unquote (escape c ++ rest) = (unquote rest).map (Prod.map (c :: ·) id) := by
  unfold escape
  split
  · next same => subst same; rfl
  split
  · next same => subst same; rfl
  split
  · next same => subst same; rfl
  split
  · next same => subst same; rfl
  split
  · next same => subst same; rfl
  split
  · next same => subst same; rfl
  split
  · next same => subst same; rfl
  split
  · next control =>
    have high := hexValue_digitChar (c.toNat / 16) (by omega)
    have low := hexValue_digitChar (c.toNat % 16) (by omega)
    have same : Char.ofNat (16 * (c.toNat / 16) + c.toNat % 16) = c := by
      rw [Nat.div_add_mod, Char.ofNat_toNat]
    simp only [List.cons_append, List.nil_append, unquote, high, low, same]
  · next quotes slash _ _ _ _ _ _ =>
    simp only [List.cons_append, List.nil_append]
    rw [unquote.eq_def]
    split <;> simp_all

theorem unquote_quote (s : String) (rest : Text) :
    unquote (s.toList.flatMap escape ++ '"' :: rest) = some (s.toList, rest) := by
  induction s.toList with
  | nil => rfl
  | cons c cs ih =>
    rw [List.flatMap_cons, List.append_assoc, unquote_escape, ih]
    rfl

theorem readNat_toDigits (n : Nat) : readNat (Nat.toDigits 10 n) = some n := by
  have digits : (Nat.toDigits 10 n).all Char.isDigit = true := by
    rw [List.all_eq_true]
    intro c member
    exact Nat.isDigit_of_mem_toDigits (by decide) (by decide) member
  rw [readNat, if_pos ⟨Nat.toDigits_ne_nil, digits⟩, Nat.ofDigitChars_ten_toDigits]

/-- Digits are not led by a minus sign. -/
theorem readInt_digits {text : Text} (digits : ∀ c ∈ text, c ≠ '-') :
    readInt text = (readNat text).map Int.ofNat := by
  unfold readInt
  split
  · next rest => exact absurd rfl (digits '-' List.mem_cons_self)
  · rfl

theorem readInt_intText (value : Int) : readInt (intText value) = some value := by
  cases value with
  | ofNat n =>
    have unsigned : ∀ c ∈ Nat.toDigits 10 n, c ≠ '-' := by
      rintro c member rfl
      have digit : ('-' : Char).isDigit = true :=
        Nat.isDigit_of_mem_toDigits (by decide) (by decide) member
      exact absurd digit (by decide)
    rw [intText, readInt_digits unsigned, readNat_toDigits]
    rfl
  | negSucc n =>
    simp only [intText, readInt, readNat_toDigits]
    rfl

theorem readNat_marked {text : Text} (marked : ∃ c ∈ text, c.isDigit = false) :
    readNat text = none := by
  obtain ⟨c, member, mark⟩ := marked
  rw [readNat, if_neg]
  rintro ⟨-, digits⟩
  rw [List.all_eq_true] at digits
  exact Bool.false_ne_true (mark.symm.trans (digits c member))

theorem readInt_marked {text : Text} (marked : ∃ c ∈ text, c.isDigit = false ∧ c ≠ '-') :
    readInt text = none := by
  obtain ⟨c, member, mark, unsigned⟩ := marked
  unfold readInt
  split
  · next digits =>
    have behind : c ∈ digits := (List.mem_cons.mp member).resolve_left unsigned
    rw [readNat_marked ⟨c, behind, mark⟩]
    rfl
  · rw [readNat_marked ⟨c, member, mark⟩]
    rfl

/-- A number ends where another kind of character follows. -/
def Apart (rest : Text) : Prop := ∀ c ∈ rest.head?, isNumeric c = false

theorem apart_cons {c : Char} (rest : Text) (other : isNumeric c = false) : Apart (c :: rest) := by
  intro d member
  cases member
  exact other

/-- A reader that begins with a character of a number reads a number. -/
theorem parse_numeric {c : Char} (numeric : isNumeric c = true) (tail : Text) (fuel : Nat) :
    parse (N := N) (fuel + 1) (c :: tail) =
      (readNumber ((c :: tail).takeWhile isNumeric)).map
        fun value => (value, (c :: tail).dropWhile isNumeric) := by
  rw [parse] <;> rintro rest same <;> cases same <;> exact absurd numeric (by decide)

theorem parse_token {token : Text} (numeric : ∀ c ∈ token, isNumeric c = true) {value : Document N}
    (reads : readNumber token = some value) (nonempty : token ≠ []) {rest : Text} (apart : Apart rest)
    (fuel : Nat) : parse (fuel + 1) (token ++ rest) = some (value, rest) := by
  have taken : (token ++ rest).takeWhile isNumeric = token := by
    rw [List.takeWhile_append_of_pos numeric]
    cases rest with
    | nil => rw [List.takeWhile_nil, List.append_nil]
    | cons c tail => rw [List.takeWhile_cons_of_neg (by simp [apart c rfl]), List.append_nil]
  have dropped : (token ++ rest).dropWhile isNumeric = rest := by
    rw [List.dropWhile_append_of_pos numeric]
    cases rest with
    | nil => rfl
    | cons c tail => rw [List.dropWhile_cons_of_neg (by simp [apart c rfl])]
  obtain ⟨c, tail, rfl⟩ := List.exists_cons_of_ne_nil nonempty
  rw [List.cons_append, parse_numeric (numeric c List.mem_cons_self), ← List.cons_append, taken, reads,
    dropped]
  rfl

theorem intText_numeric (value : Int) : ∀ c ∈ intText value, isNumeric c = true := by
  have digits (n : Nat) : ∀ c ∈ Nat.toDigits 10 n, isNumeric c = true := by
    intro c member
    have digit := Nat.isDigit_of_mem_toDigits (by decide) (by decide) member
    rw [isNumeric, digit, Bool.true_or]
  cases value with
  | ofNat n => exact digits n
  | negSucc n =>
    intro c member
    rcases List.mem_cons.mp member with rfl | behind
    · rfl
    · exact digits (n + 1) c behind

theorem intText_ne_nil (value : Int) : intText value ≠ [] := by
  cases value with
  | ofNat n => exact Nat.toDigits_ne_nil
  | negSucc n => exact List.cons_ne_nil _ _

theorem readNumber_int (value : Int) : readNumber (N := N) (intText value) = some (.int value) := by
  rw [readNumber, readInt_intText]

theorem readNumber_float (value : N) : readNumber (FloatText.text value) = some (.float value) := by
  rw [readNumber, readInt_marked (FloatText.marked value), FloatText.read_text]
  rfl

theorem floatText_ne_nil (value : N) : FloatText.text value ≠ [] := by
  obtain ⟨c, member, -⟩ := FloatText.marked value
  exact List.ne_nil_of_mem member

theorem not_white_of_numeric {c : Char} (numeric : isNumeric c = true) : isWhiteSpace c = false := by
  simp only [isNumeric, Bool.or_eq_true, decide_eq_true_eq, List.mem_cons, List.not_mem_nil,
    or_false] at numeric
  rcases numeric with digit | rfl | rfl | rfl | rfl | rfl | rfl
  · have range : 48 ≤ c.toNat ∧ c.toNat ≤ 57 := Char.isDigit_iff_toNat.mp digit
    simp only [isWhiteSpace, Bool.or_eq_false_iff, Bool.and_eq_false_iff, decide_eq_false_iff_not,
      beq_eq_false_iff_ne]
    omega
  all_goals decide

/-- No written value begins like the end of an array, or with white space. -/
theorem print_head (v : Document N) : ∃ c tail, print v = c :: tail ∧ c ≠ ']' ∧ isWhiteSpace c = false := by
  have ofNumber {token : Text} (nonempty : token ≠ []) (numeric : ∀ c ∈ token, isNumeric c = true) :
      ∃ c tail, token = c :: tail ∧ c ≠ ']' ∧ isWhiteSpace c = false := by
    obtain ⟨c, tail, rfl⟩ := List.exists_cons_of_ne_nil nonempty
    have first := numeric c List.mem_cons_self
    refine ⟨c, tail, rfl, ?_, not_white_of_numeric first⟩
    rintro rfl
    exact absurd first (by decide)
  match v with
  | .null | .bool true | .bool false | .string _ | .array [] | .array (_ :: _) | .object []
  | .object (_ :: _) => exact ⟨_, _, rfl, by decide, by decide⟩
  | .int value => exact ofNumber (intText_ne_nil value) (intText_numeric value)
  | .float value => exact ofNumber (floatText_ne_nil value) (FloatText.numeric value)

theorem print_pos (v : Document N) : 0 < (print v).length := by
  obtain ⟨c, tail, shape, -⟩ := print_head v
  rw [shape, List.length_cons]
  exact Nat.succ_pos _

theorem isBlank_print (v : Document N) : isBlank (print v) = false := by
  obtain ⟨c, tail, shape, -, dark⟩ := print_head v
  rw [shape, isBlank, List.all_cons, dark, Bool.false_and]

theorem apart_items (items : List (Document N)) (rest : Text) : Apart (printItems items ++ rest) := by
  cases items with
  | nil => exact apart_cons _ (by decide)
  | cons item items => exact apart_cons _ (by decide)

theorem apart_members (members : List (String × Document N)) (rest : Text) :
    Apart (printMembers members ++ rest) := by
  cases members with
  | nil => exact apart_cons _ (by decide)
  | cons member members => exact apart_cons _ (by decide)

mutual
theorem parse_print : ∀ (v : Document N) (fuel : Nat) (rest : Text), (print v).length ≤ fuel →
    Apart rest → parse fuel (print v ++ rest) = some (v, rest)
  | v, 0, _, bound, _ => absurd (print_pos v) (Nat.not_lt.mpr bound)
  | .null, _ + 1, _, _, _ => rfl
  | .bool true, _ + 1, _, _, _ => rfl
  | .bool false, _ + 1, _, _, _ => rfl
  | .int value, fuel + 1, _, _, apart =>
    parse_token (intText_numeric value) (readNumber_int value) (intText_ne_nil value) apart fuel
  | .float value, fuel + 1, _, _, apart =>
    parse_token (FloatText.numeric value) (readNumber_float value) (floatText_ne_nil value) apart fuel
  | .string value, fuel + 1, rest, _, _ => by
    have unquoted := unquote_quote value rest
    simp only [print, quote, List.cons_append, List.append_assoc, List.nil_append, parse, unquoted,
      Option.map_some, Prod.map_apply, String.ofList_toList, id_eq]
  | .array [], _ + 1, _, _, _ => rfl
  | .array (item :: items), fuel + 1, rest, bound, _ => by
    simp only [print, List.length_cons, List.length_append] at bound
    have first := parse_print item fuel (printItems items ++ rest) (by omega) (apart_items items rest)
    have others := parseItems_print items fuel rest (by omega)
    obtain ⟨c, tail, shape, inside, -⟩ := print_head item
    simp only [print, List.cons_append, List.append_assoc]
    rw [shape, List.cons_append] at first ⊢
    rw [parse]
    · rw [first]
      simp only [Option.bind_eq_bind, Option.bind_some, others]
    · rintro empty same
      cases same
      exact inside rfl
  | .object [], _ + 1, _, _, _ => rfl
  | .object ((name, value) :: members), fuel + 1, rest, bound, _ => by
    simp only [print, List.length_cons, List.length_append] at bound
    have first := parseMember_print name value fuel (printMembers members ++ rest)
      (by simp only [List.length_cons, List.length_append]; omega) (apart_members members rest)
    have others := parseMembers_print members fuel rest (by omega)
    simp only [print, List.cons_append, List.append_assoc]
    rw [quote, List.cons_append, List.cons_append] at first ⊢
    rw [parse]
    · rw [first]
      simp only [Option.bind_eq_bind, Option.bind_some, others]
    · nofun

theorem parseItems_print : ∀ (items : List (Document N)) (fuel : Nat) (rest : Text),
    (printItems items).length ≤ fuel → parseItems fuel (printItems items ++ rest) = some (items, rest)
  | [], 0, _, bound => absurd bound (by simp [printItems])
  | [], _ + 1, _, _ => rfl
  | _ :: _, 0, _, bound => absurd bound (by simp [printItems])
  | item :: items, fuel + 1, rest, bound => by
    simp only [printItems, List.length_cons, List.length_append] at bound
    have first := parse_print item fuel (printItems items ++ rest) (by omega) (apart_items items rest)
    have others := parseItems_print items fuel rest (by omega)
    simp only [printItems, List.cons_append, List.append_assoc, parseItems, first, others,
      Option.bind_eq_bind, Option.bind_some]

theorem parseMember_print : ∀ (name : String) (value : Document N) (fuel : Nat) (rest : Text),
    (quote name ++ ':' :: print value).length ≤ fuel → Apart rest →
      parseMember fuel (quote name ++ ':' :: (print value ++ rest)) = some ((name, value), rest)
  | name, value, 0, _, bound, _ => absurd bound (by simp [quote])
  | name, value, fuel + 1, rest, bound, apart => by
    simp only [quote, List.length_cons, List.length_append] at bound
    have content := parse_print value fuel rest (by omega) apart
    have unquoted := unquote_quote name (':' :: (print value ++ rest))
    simp only [quote, List.cons_append, List.append_assoc, List.nil_append, parseMember, unquoted,
      content, Option.bind_eq_bind, Option.bind_some, String.ofList_toList]

theorem parseMembers_print : ∀ (members : List (String × Document N)) (fuel : Nat) (rest : Text),
    (printMembers members).length ≤ fuel →
      parseMembers fuel (printMembers members ++ rest) = some (members, rest)
  | [], 0, _, bound => absurd bound (by simp [printMembers])
  | [], _ + 1, _, _ => rfl
  | _ :: _, 0, _, bound => absurd bound (by simp [printMembers])
  | (name, value) :: members, fuel + 1, rest, bound => by
    simp only [printMembers, List.length_cons, List.length_append] at bound
    have first := parseMember_print name value fuel (printMembers members ++ rest)
      (by simp only [List.length_cons, List.length_append]; omega) (apart_members members rest)
    have others := parseMembers_print members fuel rest (by omega)
    simp only [printMembers, List.cons_append, List.append_assoc, parseMembers, first, others,
      Option.bind_eq_bind, Option.bind_some]
end

theorem read_print (v : Document N) : read (print v) = some v := by
  have parsed := parse_print v (print v).length [] (le_refl _) (fun c member => by cases member)
  rw [List.append_nil] at parsed
  rw [read, parsed]

/-- No control character. -/
def Plain (text : Text) : Prop := ∀ c ∈ text, 32 ≤ c.toNat

instance decidablePlain (text : Text) : Decidable (Plain text) :=
  List.decidableBAll (fun c : Char => 32 ≤ c.toNat) text

theorem plain_append {a b : Text} (first : Plain a) (second : Plain b) : Plain (a ++ b) :=
  fun c member => (List.mem_append.mp member).elim (first c) (second c)

theorem plain_cons {c : Char} {rest : Text} (head : 32 ≤ c.toNat) (tail : Plain rest) :
    Plain (c :: rest) :=
  plain_append (a := [c]) (fun d member => by rw [List.mem_singleton.mp member]; exact head) tail

theorem plain_digitChar : ∀ n < 16, 32 ≤ (Nat.digitChar n).toNat := by decide

theorem plain_escape (c : Char) : Plain (escape c) := by
  unfold escape
  split
  · decide
  split
  · decide
  split
  · decide
  split
  · decide
  split
  · decide
  split
  · decide
  split
  · decide
  split
  · next control =>
    have high := plain_digitChar (c.toNat / 16) (by omega)
    have low := plain_digitChar (c.toNat % 16) (by omega)
    refine plain_append (a := ['\\', 'u', '0', '0']) (by decide) (plain_cons high (plain_cons low ?_))
    exact fun d member => by cases member
  · next plain =>
    intro d member
    rw [List.mem_singleton.mp member]
    exact Nat.not_lt.mp plain

theorem plain_quote (s : String) : Plain (quote s) := by
  refine plain_cons (by decide) (plain_append ?_ (by decide))
  intro d member
  obtain ⟨c, -, inside⟩ := List.mem_flatMap.mp member
  exact plain_escape c d inside

theorem plain_numeric {token : Text} (numeric : ∀ c ∈ token, isNumeric c = true) : Plain token := by
  intro c member
  have kind := numeric c member
  simp only [isNumeric, Bool.or_eq_true, decide_eq_true_eq, List.mem_cons, List.not_mem_nil,
    or_false] at kind
  rcases kind with digit | rfl | rfl | rfl | rfl | rfl | rfl
  · exact Nat.le_trans (by decide) (Char.isDigit_iff_toNat.mp digit).1
  all_goals decide

mutual
theorem plain_print : ∀ v : Document N, Plain (print v)
  | .null | .bool true | .bool false | .array [] | .object [] => by simp only [print]; decide
  | .int value => plain_numeric (intText_numeric value)
  | .float value => plain_numeric (FloatText.numeric value)
  | .string value => plain_quote value
  | .array (item :: rest) =>
    plain_cons (by decide) (plain_append (plain_print item) (plain_printItems rest))
  | .object ((name, value) :: rest) =>
    plain_cons (by decide) (plain_append (plain_quote name)
      (plain_cons (by decide) (plain_append (plain_print value) (plain_printMembers rest))))

theorem plain_printItems : ∀ items : List (Document N), Plain (printItems items)
  | [] => by simp only [printItems]; decide
  | item :: rest => plain_cons (by decide) (plain_append (plain_print item) (plain_printItems rest))

theorem plain_printMembers : ∀ members : List (String × Document N), Plain (printMembers members)
  | [] => by simp only [printMembers]; decide
  | (name, value) :: rest =>
    plain_cons (by decide) (plain_append (plain_quote name)
      (plain_cons (by decide) (plain_append (plain_print value) (plain_printMembers rest))))
end

theorem brace_mem_print (members : List (String × Document N)) : '{' ∈ print (.object members) := by
  cases members with
  | nil => exact List.mem_cons_self
  | cons member rest => exact List.mem_cons_self

end SensorGateway.Lib.JsonText
