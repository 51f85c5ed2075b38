import Mathlib.Data.List.Basic

/-! Texts written in the characters that a medium carries: percent-encoding, which writes
the bytes of a text in UTF-8, and the literals of JSON in ASCII. -/

set_option autoImplicit false

namespace TextEncodings

/-- A hexadecimal digit in upper case. -/
def hexDigit (number : Nat) : Char := Char.ofNat (if number < 10 then 48 + number else 55 + number)

/-- The value of a hexadecimal digit in either case. -/
def hexValue? (char : Char) : Option Nat :=
  let code := char.toNat
  if 48 ≤ code ∧ code ≤ 57 then some (code - 48)
  else if 65 ≤ code ∧ code ≤ 70 then some (code - 55)
  else if 97 ≤ code ∧ code ≤ 102 then some (code - 87)
  else none

theorem hexValue_hexDigit : ∀ number < 16, hexValue? (hexDigit number) = some number := by
  decide

theorem hexValue_digitChar : ∀ number < 16, hexValue? number.digitChar = some number := by
  decide

section PercentEncoding

def escapeByte (byte : UInt8) : List Char :=
  ['%', hexDigit (byte.toNat / 16), hexDigit (byte.toNat % 16)]

def percentEncodeChar (kept : Char → Bool) (char : Char) : List Char :=
  if kept char then [char] else (String.utf8EncodeChar char).flatMap escapeByte

/-- A text of which the characters that are not kept are escaped byte by byte. -/
def percentEncode (kept : Char → Bool) (text : List Char) : List Char :=
  text.flatMap (percentEncodeChar kept)

/-- What is no `%` with two digits after it stands for itself. -/
def percentDecode : List Char → List UInt8
  | [] => []
  | '%' :: high :: low :: rest =>
      match hexValue? high, hexValue? low with
      | some upper, some lower => UInt8.ofNat (16 * upper + lower) :: percentDecode rest
      | _, _ => String.utf8EncodeChar '%' ++ percentDecode (high :: low :: rest)
  | char :: rest => String.utf8EncodeChar char ++ percentDecode rest

def utf8 (text : List Char) : List UInt8 := text.flatMap String.utf8EncodeChar

/-- The text of bytes; `replaced` is what a decoder makes of those that are no UTF-8. -/
def readUtf8 (replaced : List UInt8 → List Char) (bytes : List UInt8) : List Char :=
  match bytes.toByteArray.utf8Decode? with
  | some chars => chars.toList
  | none => replaced bytes

variable {kept : Char → Bool} {text : List Char}

theorem forall_mem_escape {property : Char → Prop} (percent : property '%')
    (digits : ∀ number < 16, property (hexDigit number)) (bytes : List UInt8) :
    ∀ char ∈ bytes.flatMap escapeByte, property char := by
  intro char member
  obtain ⟨byte, -, written⟩ := List.mem_flatMap.mp member
  have small := byte.toNat_lt
  simp only [escapeByte, List.mem_cons, List.not_mem_nil, or_false] at written
  rcases written with rfl | rfl | rfl
  · exact percent
  · exact digits _ (by omega)
  · exact digits _ (by omega)

/-- What is written are characters that are kept, percent signs and digits. -/
theorem forall_mem_percentEncode {property : Char → Prop} (percent : property '%')
    (digits : ∀ number < 16, property (hexDigit number))
    (plain : ∀ char ∈ text, kept char → property char) :
    ∀ char ∈ percentEncode kept text, property char := by
  intro char member
  obtain ⟨source, here, written⟩ := List.mem_flatMap.mp member
  rw [percentEncodeChar] at written
  split at written
  · next keeps =>
      cases List.mem_singleton.mp written
      exact plain _ here keeps
  · exact forall_mem_escape percent digits _ char written

/-- A character that is neither kept nor used for writing others does not occur. -/
theorem not_mem_percentEncode {char : Char} (dropped : kept char = false) (percent : '%' ≠ char)
    (digits : ∀ number < 16, hexDigit number ≠ char) : char ∉ percentEncode kept text := by
  intro member
  refine @forall_mem_percentEncode _ _ (· ≠ char) percent digits ?_ char member rfl
  rintro other - keeps rfl
  rw [dropped] at keeps
  cases keeps

theorem percentEncode_append (first second : List Char) :
    percentEncode kept (first ++ second) = percentEncode kept first ++ percentEncode kept second :=
  List.flatMap_append

/-- Text of characters that are kept is its own encoding. -/
theorem percentEncode_of_kept (all : ∀ char ∈ text, kept char) :
    percentEncode kept text = text := by
  induction text with
  | nil => rfl
  | cons char rest ih =>
      obtain ⟨here, later⟩ := List.forall_mem_cons.mp all
      rw [percentEncode, List.flatMap_cons, percentEncodeChar, if_pos here]
      exact congrArg (char :: ·) (ih later)

/-- To encode once more what keeps the escapes keeps less of the text. -/
theorem percentEncode_percentEncode {first : Char → Bool} (percent : kept '%')
    (digits : ∀ number < 16, kept (hexDigit number)) :
    percentEncode kept (percentEncode first text) =
      percentEncode (fun char => first char && kept char) text := by
  induction text with
  | nil => rfl
  | cons char rest ih =>
      have here : percentEncode kept (percentEncodeChar first char) =
          percentEncodeChar (fun char => first char && kept char) char := by
        cases keeps : first char with
        | true => simp [percentEncodeChar, percentEncode, keeps]
        | false =>
            simp only [percentEncodeChar, keeps, Bool.false_and, Bool.false_eq_true, if_false]
            exact percentEncode_of_kept (forall_mem_escape percent digits _)
      have whole : percentEncode first (char :: rest) =
          percentEncodeChar first char ++ percentEncode first rest := rfl
      rw [whole, percentEncode_append, here, ih]
      rfl

theorem percentDecode_cons {char : Char} (plain : char ≠ '%') (rest : List Char) :
    percentDecode (char :: rest) = String.utf8EncodeChar char ++ percentDecode rest := by
  rw [percentDecode.eq_def]
  split
  · next impossible => cases impossible
  · next same =>
      cases same
      exact absurd rfl plain
  · next same =>
      cases same
      rfl

theorem percentDecode_escapeByte (byte : UInt8) (rest : List Char) :
    percentDecode (escapeByte byte ++ rest) = byte :: percentDecode rest := by
  have small := byte.toNat_lt
  have whole : 16 * (byte.toNat / 16) + byte.toNat % 16 = byte.toNat := by omega
  simp only [escapeByte, List.cons_append, List.nil_append, percentDecode]
  rw [hexValue_hexDigit _ (by omega), hexValue_hexDigit _ (by omega)]
  simp only [whole, UInt8.ofNat_toNat]

theorem percentDecode_escape (bytes : List UInt8) (rest : List Char) :
    percentDecode (bytes.flatMap escapeByte ++ rest) = bytes ++ percentDecode rest := by
  induction bytes with
  | nil => rfl
  | cons byte more ih =>
      rw [List.flatMap_cons, List.append_assoc, percentDecode_escapeByte, ih, List.cons_append]

/-- Whatever is kept, apart from the percent sign, the bytes of the text come back. -/
theorem percentDecode_percentEncode (percent : kept '%' = false) (text : List Char) :
    percentDecode (percentEncode kept text) = utf8 text := by
  induction text with
  | nil => rfl
  | cons char rest ih =>
      rw [percentEncode, utf8, List.flatMap_cons, List.flatMap_cons, ← percentEncode, ← utf8,
        percentEncodeChar]
      split
      · next keeps =>
          have plain : char ≠ '%' := by
            rintro rfl
            rw [percent] at keeps
            cases keeps
          rw [List.singleton_append, percentDecode_cons plain, ih]
      · rw [percentDecode_escape, ih]

theorem readUtf8_utf8 (replaced : List UInt8 → List Char) (text : List Char) :
    readUtf8 replaced (utf8 text) = text := by
  have written : (utf8 text).toByteArray = text.utf8Encode := rfl
  rw [readUtf8, written, List.utf8Decode?_utf8Encode]

end PercentEncoding

section Forms

variable (replaced : List UInt8 → List Char)

/-- The text of a part of a form, in which spaces may be written as plus signs. -/
def formText (part : List Char) : List Char :=
  readUtf8 replaced (percentDecode (part.map fun char => if char = '+' then ' ' else char))

/-- The name and the value of a field; the value of a field without `=` is empty. -/
def formField (field : List Char) : List Char × List Char :=
  (formText replaced (field.takeWhile (· ≠ '=')),
    formText replaced (field.dropWhile (· ≠ '=')).tail)

/-- The fields of `application/x-www-form-urlencoded`. -/
def formFields (form : List Char) : List (List Char × List Char) :=
  ((form.splitOn '&').filter (· ≠ [])).map (formField replaced)

variable {kept : Char → Bool}

theorem formText_percentEncode (percent : kept '%' = false) (plus : kept '+' = false)
    (text : List Char) : formText replaced (percentEncode kept text) = text := by
  have none : '+' ∉ percentEncode kept text := not_mem_percentEncode plus (by decide) (by decide)
  have same : (percentEncode kept text).map (fun char => if char = '+' then ' ' else char) =
      percentEncode kept text := by
    conv_rhs => rw [← List.map_id (percentEncode kept text)]
    apply List.map_congr_left
    intro char member
    exact if_neg (ne_of_mem_of_not_mem member none)
  rw [formText, same, percentDecode_percentEncode percent, readUtf8_utf8]

/-- A field that is written with what separates fields escaped is read as it was. -/
theorem formFields_percentEncode (percent : kept '%' = false) (plus : kept '+' = false)
    (ampersand : kept '&' = false) (equals : kept '=' = false) (name value : List Char) :
    formFields replaced (percentEncode kept name ++ '=' :: percentEncode kept value) =
      [(name, value)] := by
  have apart (text : List Char) : '&' ∉ percentEncode kept text :=
    not_mem_percentEncode ampersand (by decide) (by decide)
  have whole : '&' ∉ percentEncode kept name ++ '=' :: percentEncode kept value := by
    simp [apart]
  have before : ∀ char ∈ percentEncode kept name, decide (char ≠ '=') = true := by
    intro char member
    have other : '=' ∉ percentEncode kept name :=
      not_mem_percentEncode equals (by decide) (by decide)
    exact decide_eq_true (ne_of_mem_of_not_mem member other)
  rw [formFields, List.splitOn_eq_singleton whole, List.filter_cons, if_pos (by simp)]
  simp only [List.filter_nil, List.map_cons, List.map_nil, formField]
  rw [List.takeWhile_append_of_pos before, List.dropWhile_append_of_pos before]
  simp [formText_percentEncode replaced percent plus]

end Forms

section JsonLiterals

/-- One unit of UTF-16 as an escape. -/
def escapeUnit (unit : Nat) : List Char :=
  ['\\', 'u', (unit / 4096).digitChar, (unit / 256 % 16).digitChar, (unit / 16 % 16).digitChar,
    (unit % 16).digitChar]

def unit? (first second third fourth : Char) : Option Nat := do
  let first ← hexValue? first
  let second ← hexValue? second
  let third ← hexValue? third
  let fourth ← hexValue? fourth
  return first * 4096 + second * 256 + third * 16 + fourth

/-- A character of a literal: what is not printable ASCII is escaped, outside the basic
plane as two surrogates. -/
def escapeChar (char : Char) : List Char :=
  match char.toNat with
  | 34 => ['\\', '"']
  | 92 => ['\\', '\\']
  | 8 => ['\\', 'b']
  | 9 => ['\\', 't']
  | 10 => ['\\', 'n']
  | 12 => ['\\', 'f']
  | 13 => ['\\', 'r']
  | code =>
      if 32 ≤ code ∧ code ≤ 126 then [char]
      else if code < 0x10000 then escapeUnit code
      else escapeUnit (0xD800 + (code - 0x10000) / 1024) ++
        escapeUnit (0xDC00 + (code - 0x10000) % 1024)

def literal (text : List Char) : List Char := '"' :: text.flatMap escapeChar ++ ['"']

/-- The second of two surrogates. -/
def readLow (high : Nat) : List Char → Option (Char × List Char)
  | '\\' :: 'u' :: first :: second :: third :: fourth :: rest => do
      let low ← unit? first second third fourth
      if 0xDC00 ≤ low ∧ low < 0xE000 then
        return (Char.ofNat (0x10000 + (high - 0xD800) * 1024 + (low - 0xDC00)), rest)
      else none
  | _ => none

/-- What follows a backslash; a surrogate that stands alone is no character. -/
def readEscape : List Char → Option (Char × List Char)
  | '"' :: rest => some ('"', rest)
  | '\\' :: rest => some ('\\', rest)
  | '/' :: rest => some ('/', rest)
  | 'b' :: rest => some (Char.ofNat 8, rest)
  | 'f' :: rest => some (Char.ofNat 12, rest)
  | 'n' :: rest => some ('\n', rest)
  | 'r' :: rest => some ('\r', rest)
  | 't' :: rest => some ('\t', rest)
  | 'u' :: first :: second :: third :: fourth :: rest => do
      let unit ← unit? first second third fourth
      if 0xD800 ≤ unit ∧ unit < 0xDC00 then readLow unit rest
      else if 0xDC00 ≤ unit ∧ unit < 0xE000 then none
      else return (Char.ofNat unit, rest)
  | _ => none

/-- One character of a literal; control characters must be escaped. -/
def readChar : List Char → Option (Char × List Char)
  | [] => none
  | '\\' :: rest => readEscape rest
  | char :: rest => if char.toNat < 32 then none else some (char, rest)

/-- The text up to the closing quote and what follows it. -/
def readText : Nat → List Char → Option (List Char × List Char)
  | 0, _ => none
  | _ + 1, '"' :: rest => some ([], rest)
  | fuel + 1, written => do
      let (char, rest) ← readChar written
      let (text, rest) ← readText fuel rest
      return (char :: text, rest)

theorem unit_escapeUnit {unit : Nat} (small : unit < 0x10000) :
    unit? (unit / 4096).digitChar (unit / 256 % 16).digitChar (unit / 16 % 16).digitChar
      (unit % 16).digitChar = some unit := by
  simp only [unit?]
  rw [hexValue_digitChar _ (by omega), hexValue_digitChar _ (by omega),
    hexValue_digitChar _ (by omega), hexValue_digitChar _ (by omega)]
  simp only [Option.bind_eq_bind, Option.bind_some, pure, Option.some.injEq]
  omega

theorem toNat_valid (char : Char) :
    char.toNat < 0xD800 ∨ 0xE000 ≤ char.toNat ∧ char.toNat < 0x110000 := by
  rcases char.valid with low | ⟨above, below⟩
  · exact .inl low
  · exact .inr ⟨above, below⟩

theorem readEscape_escapeUnit {unit : Nat} (small : unit < 0x10000) (rest : List Char) :
    readChar (escapeUnit unit ++ rest) =
      if 0xD800 ≤ unit ∧ unit < 0xDC00 then readLow unit rest
      else if 0xDC00 ≤ unit ∧ unit < 0xE000 then none
      else some (Char.ofNat unit, rest) := by
  simp only [escapeUnit, List.cons_append, List.nil_append, readChar, readEscape,
    unit_escapeUnit small, Option.bind_eq_bind, Option.bind_some, pure]

theorem readLow_escapeUnit {high low : Nat} (above : 0xDC00 ≤ low) (below : low < 0xE000)
    (rest : List Char) : readLow high (escapeUnit low ++ rest) =
      some (Char.ofNat (0x10000 + (high - 0xD800) * 1024 + (low - 0xDC00)), rest) := by
  simp only [escapeUnit, List.cons_append, List.nil_append, readLow,
    unit_escapeUnit (show low < 0x10000 by omega), Option.bind_eq_bind, Option.bind_some, pure,
    if_pos (And.intro above below)]

theorem readChar_small {char : Char} (small : char.toNat < 0x10000) (rest : List Char) :
    readChar (escapeUnit char.toNat ++ rest) = some (char, rest) := by
  have valid := toNat_valid char
  rw [readEscape_escapeUnit small, if_neg (by omega), if_neg (by omega), Char.ofNat_toNat]

/-- Two surrogates are read as the character they stand for. -/
theorem readChar_large {char : Char} (large : ¬ char.toNat < 0x10000) (rest : List Char) :
    readChar (escapeUnit (0xD800 + (char.toNat - 0x10000) / 1024) ++
      escapeUnit (0xDC00 + (char.toNat - 0x10000) % 1024) ++ rest) = some (char, rest) := by
  have valid := toNat_valid char
  have point : 0x10000 + (0xD800 + (char.toNat - 0x10000) / 1024 - 0xD800) * 1024 +
      (0xDC00 + (char.toNat - 0x10000) % 1024 - 0xDC00) = char.toNat := by
    omega
  rw [List.append_assoc, readEscape_escapeUnit (by omega), if_pos (by omega),
    readLow_escapeUnit (by omega) (by omega), point, Char.ofNat_toNat]

theorem readChar_plain {char : Char} (printable : 32 ≤ char.toNat) (plain : char ≠ '\\')
    (rest : List Char) : readChar (char :: rest) = some (char, rest) := by
  rw [readChar]
  · exact if_neg (Nat.not_lt.mpr printable)
  · exact plain

/-- A character is read as it was written. -/
theorem readChar_escapeChar (char : Char) (rest : List Char) :
    readChar (escapeChar char ++ rest) = some (char, rest) := by
  have known {code : Nat} (same : char.toNat = code) : char = Char.ofNat code := by
    rw [← same, Char.ofNat_toNat]
  unfold escapeChar
  split
  iterate 7
    next same =>
      rw [known same]
      rfl
  · next _ backslash _ _ _ _ _ =>
      split
      · next printable =>
          apply readChar_plain printable.1
          rintro rfl
          exact backslash rfl
      split
      · next small => exact readChar_small small rest
      · next large => exact readChar_large large rest

theorem escapeChar_head (char : Char) (rest : List Char) :
    ∃ first after, escapeChar char ++ rest = first :: after ∧ first ≠ '"' := by
  unfold escapeChar
  split
  all_goals try exact ⟨'\\', _, rfl, by decide⟩
  · next quote _ _ _ _ _ _ =>
      split
      · refine ⟨char, _, rfl, ?_⟩
        rintro rfl
        exact quote rfl
      split
      · exact ⟨'\\', _, rfl, by decide⟩
      · exact ⟨'\\', _, rfl, by decide⟩

/-- A literal is read up to its closing quote. -/
theorem readText_literal (text rest : List Char) {fuel : Nat} (enough : text.length < fuel) :
    readText fuel (text.flatMap escapeChar ++ '"' :: rest) = some (text, rest) := by
  induction text generalizing fuel with
  | nil =>
      cases fuel with
      | zero => cases enough
      | succ fuel => rfl
  | cons char text ih =>
      cases fuel with
      | zero => cases enough
      | succ fuel =>
          rw [List.flatMap_cons, List.append_assoc]
          obtain ⟨first, after, written, other⟩ :=
            escapeChar_head char (text.flatMap escapeChar ++ '"' :: rest)
          have read := readChar_escapeChar char (text.flatMap escapeChar ++ '"' :: rest)
          rw [written] at read ⊢
          rw [readText]
          · simp only [read, Option.bind_eq_bind, Option.bind_some,
              ih (Nat.lt_of_succ_lt_succ enough), pure]
          · intro rest same
            exact other (List.cons.inj same).1

/-! An object of texts, as `json.dumps` writes it and `json.loads` reads it. -/

def dumpsMember (member : List Char × List Char) : List Char :=
  literal member.1 ++ ':' :: ' ' :: literal member.2

def dumpsMembers : List (List Char × List Char) → List Char
  | [] => []
  | [member] => dumpsMember member
  | member :: rest => dumpsMember member ++ ',' :: ' ' :: dumpsMembers rest

def dumps (members : List (List Char × List Char)) : List Char :=
  '{' :: dumpsMembers members ++ ['}']

def blank (char : Char) : Bool := char = ' ' ∨ char = '\t' ∨ char = '\n' ∨ char = '\r'

/-- What follows the blanks a text begins with. -/
def skipBlank (text : List Char) : List Char := text.dropWhile blank

def readLiteral (written : List Char) : Option (List Char × List Char) :=
  match skipBlank written with
  | '"' :: rest => readText rest.length rest
  | _ => none

def readMembers : Nat → List Char → Option (List (List Char × List Char) × List Char)
  | 0, _ => none
  | fuel + 1, written => do
      let (name, rest) ← readLiteral written
      match skipBlank rest with
      | ':' :: rest =>
          let (value, rest) ← readLiteral rest
          match skipBlank rest with
          | ',' :: rest =>
              let (members, rest) ← readMembers fuel rest
              return ((name, value) :: members, rest)
          | '}' :: rest => return ([(name, value)], rest)
          | _ => none
      | _ => none

/-- The members of an object whose values are texts. -/
def loads (written : List Char) : Option (List (List Char × List Char)) := do
  match skipBlank written with
  | '{' :: rest =>
      match skipBlank rest with
      | '}' :: rest => if skipBlank rest = [] then return [] else none
      | _ =>
          let (members, rest) ← readMembers rest.length rest
          if skipBlank rest = [] then return members else none
  | _ => none

theorem skipBlank_cons {char : Char} (rest : List Char) (mark : blank char = false) :
    skipBlank (char :: rest) = char :: rest := by
  rw [skipBlank, List.dropWhile_cons_of_neg]
  simpa using mark

theorem escapeChar_length (char : Char) : 0 < (escapeChar char).length := by
  obtain ⟨first, after, written, -⟩ := escapeChar_head char []
  rw [List.append_nil] at written
  rw [written]
  exact Nat.succ_pos _

theorem length_le_flatMap (text : List Char) :
    text.length ≤ (text.flatMap escapeChar).length := by
  induction text with
  | nil => exact Nat.zero_le _
  | cons char text ih =>
      have one := escapeChar_length char
      rw [List.flatMap_cons, List.length_append, List.length_cons]
      omega

theorem readLiteral_literal (text rest : List Char) :
    readLiteral (literal text ++ rest) = some (text, rest) := by
  have long := length_le_flatMap text
  rw [literal, List.cons_append, List.cons_append, readLiteral, skipBlank_cons _ (by decide)]
  rw [List.append_assoc, List.singleton_append]
  apply readText_literal
  rw [List.length_append, List.length_cons]
  omega

/-! A blank before a name or a value is skipped. -/

theorem readLiteral_blank (written : List Char) :
    readLiteral (' ' :: written) = readLiteral written := rfl

theorem readMembers_blank (written : List Char) (fuel : Nat) :
    readMembers fuel (' ' :: written) = readMembers fuel written := by
  cases fuel <;> rfl

theorem readMembers_dumpsMembers (member : List Char × List Char)
    (members : List (List Char × List Char)) (rest : List Char) (fuel : Nat)
    (enough : members.length < fuel) :
    readMembers fuel (dumpsMembers (member :: members) ++ '}' :: rest) =
      some (member :: members, rest) := by
  induction members generalizing member fuel with
  | nil =>
      cases fuel with
      | zero => cases enough
      | succ fuel =>
          simp only [dumpsMembers, dumpsMember, readMembers, List.append_assoc, List.cons_append,
            readLiteral_literal, readLiteral_blank, Option.bind_eq_bind, Option.bind_some,
            skipBlank_cons _ (show blank ':' = false by decide),
            skipBlank_cons _ (show blank '}' = false by decide), pure]
  | cons next members ih =>
      cases fuel with
      | zero => cases enough
      | succ fuel =>
          simp only [dumpsMembers, dumpsMember, readMembers, List.append_assoc, List.cons_append,
            readLiteral_literal, readLiteral_blank, Option.bind_eq_bind, Option.bind_some,
            skipBlank_cons _ (show blank ':' = false by decide),
            skipBlank_cons _ (show blank ',' = false by decide), readMembers_blank,
            ih next _ (Nat.lt_of_succ_lt_succ enough), pure]


theorem length_le_dumpsMembers (members : List (List Char × List Char)) :
    members.length ≤ (dumpsMembers members).length := by
  induction members with
  | nil => exact Nat.zero_le _
  | cons member rest ih =>
      cases rest with
      | nil =>
          simp only [dumpsMembers, dumpsMember, List.length_append, List.length_cons,
            List.length_nil]
          omega
      | cons next others =>
          simp only [dumpsMembers, List.length_append, List.length_cons] at ih ⊢
          omega

/-- An object of texts is read as it was written. -/
theorem loads_dumps (members : List (List Char × List Char)) :
    loads (dumps members) = some members := by
  cases members with
  | nil => rfl
  | cons member rest =>
      have long := length_le_dumpsMembers (member :: rest)
      obtain ⟨after, opens⟩ : ∃ after, dumpsMembers (member :: rest) ++ ['}'] = '"' :: after := by
        cases rest <;> exact ⟨_, rfl⟩
      have read := readMembers_dumpsMembers member rest [] ('"' :: after).length (by
        rw [← opens, List.length_append]
        simp only [List.length_cons] at long ⊢
        omega)
      rw [opens] at read
      rw [loads, dumps, List.cons_append, opens, skipBlank_cons _ (by decide)]
      simp only [skipBlank_cons after (show blank '"' = false by decide), read,
        Option.bind_eq_bind, Option.bind_some]
      rfl

end JsonLiterals

end TextEncodings
