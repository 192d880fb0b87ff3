import CommonExpr.Proofs.DoubleTexts
import CommonExpr.Proofs.IntegerTexts
import CommonExpr.Proofs.MapKeys
import CommonExpr.Value.Format

/-! The texts of keys. Null, the bools and the numbers are known again by their texts, so that two of them
that are not one key have different texts. Only what is no number, or what is a text itself, can have the
text of another key. -/

namespace CommonExpr.Proofs.KeyTexts
open NumberPlaces MapKeys ShortestDecimal DoubleLiterals IntegerTexts DoubleTexts

section Identities
variable {key : Value} {text : String} {characters : List Char}

/-- What a text says a key is known by: a number if it starts with a digit, of which all digits are exact and
other decimals stand for the nearest double, and else one of a few words. -/
def identityOfText (characters : List Char) : Option Identity :=
  let (negative, body) := splitSign characters
  if body.head?.any Char.isDigit then
    if body.all Char.isDigit then
      let size : Int := Nat.ofDigitChars 10 body 0
      identity? (.int (if negative then -size else size))
    else (readDecimal? body).bind fun decimal => identity? (.double (decimal.toDouble negative))
  else if characters = "null".toList then identity? .null
  else if characters = "true".toList then identity? (.bool true)
  else if characters = "false".toList then identity? (.bool false)
  else if characters = "inf".toList then identity? (.double (.infinity false))
  else if characters = "-inf".toList then identity? (.double (.infinity true))
  else none

private theorem splitSign_digit (negative : Bool) {first : Char} {others : List Char} (digit : first.isDigit) :
    splitSign ((if negative then ['-'] else []) ++ first :: others) = (negative, first :: others) := by
  cases negative with
  | true => rfl
  | false =>
    unfold splitSign
    split
    next same => cases same; cases digit
    next same => cases same; cases digit
    next => rfl

private theorem identityOfText_int (value : Int) : identityOfText (written value) = identity? (.int value) := by
  obtain ⟨first, others, shape⟩ := List.exists_cons_of_ne_nil (Nat.toDigits_ne_nil (n := value.natAbs) (b := 10))
  have digits := toDigits_isDigit value.natAbs
  have counted : Nat.ofDigitChars 10 (Nat.toDigits 10 value.natAbs) 0 = value.natAbs := Nat.ofDigitChars_ten_toDigits
  rw [shape] at digits counted
  have signs : splitSign ((if decide (value < 0) then ['-'] else []) ++ first :: others) = (_, first :: others) :=
    splitSign_digit (decide (value < 0)) (digits first List.mem_cons_self)
  have same : written value = (if decide (value < 0) then ['-'] else []) ++ first :: others := by
    simp [written, shape]
  have whole : (first :: others).all Char.isDigit := List.all_eq_true.mpr digits
  have size : (if decide (value < 0) then -(value.natAbs : Int) else value.natAbs) = value := by
    simp only [decide_eq_true_eq]
    split <;> omega
  rw [same, identityOfText, signs]
  simp only [List.head?_cons, Option.any_some, digits first List.mem_cons_self, if_true, whole, counted, size]

private theorem identityOfText_decimal {decimal : Decimal} (negative : Bool) (reads : Reads characters decimal) :
    identityOfText ((if negative then ['-'] else []) ++ characters) =
      identity? (.double (decimal.toDouble negative)) := by
  obtain ⟨first, others, rfl, digit⟩ := reads.starts
  obtain ⟨c, member, mark⟩ := reads.mark
  obtain ⟨other, read, same⟩ := reads.read
  have mixed : (first :: others).all Char.isDigit = false :=
    List.all_eq_false.mpr ⟨c, member, by simp [mark]⟩
  rw [identityOfText, splitSign_digit negative digit]
  simp only [List.head?_cons, Option.any_some, digit, if_true, mixed, Bool.false_eq_true, if_false, read,
    Option.bind_some, toDouble_congr same]

/-- A double that is an integer is known by what the integer is known by. -/
theorem identity?_integral {value : Double} (integral : value.isIntegral) :
    identity? (.double value) = identity? (.int (value.truncate?.getD 0)) := by
  cases value with
  | nan | infinity => cases integral
  | finite negative significand exponent canonical =>
    have floor : ((Double.magnitude significand exponent).floor : Rat) = Double.magnitude significand exponent := by
      have whole : (Double.magnitude significand exponent).den = 1 := by
        cases negative <;> simpa [Double.isIntegral, Double.toRat?] using integral
      rw [Rat.floor_def, whole, Nat.cast_one, Int.ediv_one]
      exact Rat.coe_int_num_of_den_eq_one whole
    cases negative <;> simp [identity?, numberIdentity?, Number.extent?, Double.toRat?, Double.truncate?, floor]

private theorem finite_of_fractional {value : Double} (fractional : value.isIntegral = false) {negative : Bool}
    {exponent : Int}
    {significand : Nat} {canonical : Canonical significand exponent}
    (same : value = .finite negative significand exponent canonical) : significand ≠ 0 := by
  rintro rfl
  rw [same] at fractional
  cases negative <;> simp [Double.isIntegral, Double.toRat?, magnitude_eq] at fractional

private theorem identityOfText_double {value : Double} (fractional : value.isIntegral = false)
    (number : ∀ mark, value ≠ .nan mark) : identityOfText value.text.toList = identity? (.double value) := by
  cases value with
  | nan mark => exact absurd rfl (number mark)
  | infinity negative => cases negative <;> rfl
  | finite negative significand exponent canonical =>
    have some := finite_of_fractional fractional rfl
    have read := shortest_read canonical some
    have shown : (Double.finite negative significand exponent canonical).text.toList =
        (if negative then ['-'] else []) ++ (Double.unsignedText (Double.shortest significand exponent)).toList := by
      cases negative <;> simp [Double.text]
    rw [shown, identityOfText_decimal negative (unsignedText_reads (coefficient_of_read some (read false))), read negative]

/-- Whether a key is neither a text nor a date, nor no number. -/
def isPlain : Value → Bool
  | .null | .bool _ => true
  | .number value => !value.isNaN
  | _ => false

private theorem format_double (value : Double) : (Value.double value).format =
    if value.isIntegral then (Value.int (value.truncate?.getD 0)).format else .ok value.text := rfl

/-- What a plain key is known by is known from its text. -/
theorem identityOfText_format (plain : isPlain key) (shown : key.format = .ok text) :
    identityOfText text.toList = identity? key := by
  cases key with
  | null =>
    cases shown
    rfl
  | bool value =>
    cases shown
    cases value <;> rfl
  | number value =>
    cases value with
    | int value =>
      obtain ⟨_, rfl⟩ := format_eq_ok_iff.mp shown
      rw [String.toList_ofList, identityOfText_int]
    | double value =>
      rw [format_double] at shown
      split at shown
      next integral =>
        obtain ⟨_, rfl⟩ := format_eq_ok_iff.mp shown
        rw [String.toList_ofList, identityOfText_int, identity?_integral integral]
      next fractional =>
        cases shown
        apply identityOfText_double (by simpa using fractional)
        rintro mark rfl
        cases plain
  | text | list | map | date => cases plain

private theorem keyEquals_self_of_plain (plain : isPlain key) : key.keyEquals key := by
  cases key with
  | null | bool value => exact keyEquals_self rfl rfl
  | number value => exact keyEquals_self rfl plain
  | text | list | map | date => cases plain

end Identities

section Names
variable {first second key : Value} {name other : String}

/-- The text that a key is itself. -/
def content? : Value → Option String
  | .text _ content | .date content => some content
  | _ => none

def isNaN : Value → Bool
  | .number value => value.isNaN
  | _ => false

/-- Keys that are not told apart by their texts: neither is a number, or one of them is a text that says
what the other is shown as. -/
def Confusable (first second : Value) : Prop :=
  (isNaN first ∧ isNaN second) ∨ (∃ content, content? first = some content ∧ second.format = .ok content) ∨
    ∃ content, content? second = some content ∧ first.format = .ok content

private theorem format_of_content {content : String} (text : content? key = some content) :
    key.format = .ok content := by
  cases key <;> cases text <;> rfl

private theorem format_of_nan (nan : isNaN key) : key.format = .ok "nan" := by
  cases key with
  | number value =>
    rcases value with value | mark | negative | ⟨negative, significand, exponent, canonical⟩
    case double.nan => rfl
    all_goals cases nan
  | _ => cases nan

private theorem key_cases (scalar : key.isScalar) :
    (∃ content, content? key = some content) ∨ isNaN key ∨ isPlain key := by
  cases key with
  | null | bool value => exact .inr (.inr rfl)
  | number value =>
    cases nan : value.isNaN with
    | true => exact .inr (.inl nan)
    | false => exact .inr (.inr (by rw [isPlain, nan]; rfl))
  | text | date => exact .inl ⟨_, rfl⟩
  | list | map => cases scalar

/-- No plain key is shown as what is no number is. -/
theorem plain_not_nan (plain : isPlain key) : key.format ≠ .ok "nan" := by
  intro shown
  obtain ⟨identity, known, _⟩ := (keyEquals_iff key key).mp (keyEquals_self_of_plain plain)
  rw [← identityOfText_format plain shown] at known
  cases known

/-- Two keys that are not one have the same text if and only if they are confusable. -/
theorem same_text_iff (scalar : first.isScalar) (also : second.isScalar) (apart : first.keyEquals second = false)
    (shown : first.format = .ok name) (shownToo : second.format = .ok other) : name = other ↔ Confusable first second := by
  constructor
  · rintro rfl
    have behind (content : String) (text : content? second = some content) : Confusable first second := by
      obtain rfl := Except.ok.inj ((format_of_content text).symm.trans shownToo)
      exact .inr (.inr ⟨content, text, shown⟩)
    rcases key_cases scalar with ⟨content, text⟩ | nan | plain
    · obtain rfl := Except.ok.inj ((format_of_content text).symm.trans shown)
      exact .inr (.inl ⟨content, text, shownToo⟩)
    · rcases key_cases also with ⟨content, text⟩ | nanToo | plainToo
      · exact behind content text
      · exact .inl ⟨nan, nanToo⟩
      · obtain rfl := Except.ok.inj ((format_of_nan nan).symm.trans shown)
        exact absurd shownToo (plain_not_nan plainToo)
    · rcases key_cases also with ⟨content, text⟩ | nanToo | plainToo
      · exact behind content text
      · obtain rfl := Except.ok.inj ((format_of_nan nanToo).symm.trans shownToo)
        exact absurd shown (plain_not_nan plain)
      · have same := (identityOfText_format plain shown).symm.trans (identityOfText_format plainToo shownToo)
        obtain ⟨identity, known, _⟩ := (keyEquals_iff first first).mp (keyEquals_self_of_plain plain)
        rw [(keyEquals_iff first second).mpr ⟨identity, known, same ▸ known⟩] at apart
        cases apart
  · rintro (⟨nan, nanToo⟩ | ⟨content, text, told⟩ | ⟨content, text, told⟩)
    · exact Except.ok.inj (shown.symm.trans ((format_of_nan nan).trans ((format_of_nan nanToo).symm.trans shownToo)))
    · exact Except.ok.inj (shown.symm.trans ((format_of_content text).trans (told.symm.trans shownToo)))
    · exact Except.ok.inj (shown.symm.trans (told.trans ((format_of_content text).symm.trans shownToo)))

end Names

end CommonExpr.Proofs.KeyTexts
