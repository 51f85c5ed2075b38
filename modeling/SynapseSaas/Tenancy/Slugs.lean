import SynapseSaas.Foundation.Words
import Mathlib.Data.List.OfFn

/-! Slugs: what a name becomes, what is recognised as one, and which one a new organization
gets. Texts are their characters; `lower` stands for `str.lower`, of which nothing is assumed. -/

set_option autoImplicit false

namespace SynapseSaas.Slugs

open Words

abbrev Text := List Char

/-- `[a-z0-9]`. -/
def isLetter (char : Char) : Bool := ('a' ≤ char ∧ char ≤ 'z') ∨ ('0' ≤ char ∧ char ≤ '9')

def hyphen : Char := '-'

/-- `[a-z0-9-]`. -/
def isSlugChar (char : Char) : Bool := isLetter char ∨ char = hyphen

def reservedSlugs : List Text :=
  ["www", "api", "app", "admin", "mail", "smtp", "ftp", "sftp", "ssh", "support", "help", "billing",
    "checkout", "pay", "login", "signin", "signup", "register", "logout", "static", "assets", "cdn",
    "docs", "status", "health", "platform", "system", "root", "synapse", "dashboard", "console",
    "portal"].map String.toList

section Slugify

variable (lower : Text → Text)

def slugify (text : Text) (maxLength : Nat := 48) : Text :=
  let slug := trim hyphen (subRuns hyphen (fun char => !isLetter char) 1 [] (lower text))
  trim hyphen ((subRuns hyphen (fun char => char = hyphen) 2 [] slug).take maxLength)

/-- A full match of `[a-z0-9](?:[a-z0-9-]{least,46}[a-z0-9])?`. -/
def matchesSlug (least : Nat) : Text → Bool
  | [] => false
  | first :: rest =>
      isLetter first && (rest.isEmpty ||
        (decide (least ≤ rest.dropLast.length) && decide (rest.dropLast.length ≤ 46) &&
          rest.dropLast.all isSlugChar && rest.getLast?.any isLetter))

def isValidSlug (slug : Text) : Bool :=
  matchesSlug 1 slug && !reservedSlugs.any fun reserved => reserved = slug

/-- The pattern of the field `slug` of `OrganizationCreate`. -/
def admitsSlug (slug : Text) : Bool := matchesSlug 0 slug

def hexDigit (digit : Nat) : Char := Nat.digitChar digit

/-- `data.hex()`. -/
def hexText (data : List UInt8) : Text :=
  data.flatMap fun byte => [hexDigit (byte.toNat / 16), hexDigit (byte.toNat % 16)]

/-- The stem with a suffix; `random` is what `os.urandom(3)` gives. -/
def uniqueSlug (base : Text) (random : Fin 3 → UInt8) : Text :=
  let suffix := hexText (List.ofFn random)
  let stem := trim hyphen ((slugify lower base).take 39)
  (if stem = [] then "org".toList else stem) ++ hyphen :: suffix

/-- `SlugUnavailableError`, by the slug that is reserved or invalid. -/
structure SlugUnavailable where
  slug : Text
  deriving DecidableEq, Repr

def SlugUnavailable.message (error : SlugUnavailable) : String :=
  "'" ++ String.ofList error.slug ++ "' is reserved or invalid"

/-- The slug `create_organization` settles on; `taken` is `slug_exists`. -/
def settleSlug (slug : Option Text) (name : Text) (taken : Text → Bool) (random : Fin 3 → UInt8) :
    Except SlugUnavailable Text :=
  let desired := match slug with
    | some (char :: rest) => char :: rest
    | _ => slugify lower name
  if desired ≠ [] ∧ ¬isValidSlug desired then .error ⟨desired⟩
  else if desired ≠ [] ∧ ¬taken desired then .ok desired
  else .ok (uniqueSlug lower name random)

end Slugify

example : slugify (·.map Char.toLower) "  Café -- Crème & Co.".toList = "caf-cr-me-co".toList := by
  decide

example : slugify (·.map Char.toLower) "H & R".toList = "h-r".toList := by decide

theorem isValidSlug_iff {slug : Text} :
    isValidSlug slug ↔ matchesSlug 1 slug ∧ slug ∉ reservedSlugs := by
  rw [isValidSlug, Bool.and_eq_true, Bool.not_eq_true', List.any_eq_false]
  simp only [decide_eq_true_eq]
  exact and_congr_right fun _ =>
    ⟨fun apart here => apart slug here rfl, fun apart _ here same => apart (same ▸ here)⟩

/-- The pattern in terms of the ends, the characters and the length of a text. -/
theorem matchesSlug_iff {least : Nat} {text : Text} : matchesSlug least text ↔
    text.head?.any isLetter ∧ text.getLast?.any isLetter ∧ (∀ char ∈ text, isSlugChar char) ∧
      (text.length = 1 ∨ least + 2 ≤ text.length ∧ text.length ≤ 48) := by
  have letters {char : Char} (letter : isLetter char) : isSlugChar char := by
    simp [isSlugChar, letter]
  cases text with
  | nil => simp [matchesSlug]
  | cons first rest =>
      cases rest using List.reverseRecOn with
      | nil =>
          simp only [matchesSlug, List.isEmpty_nil, Bool.true_or, Bool.and_true, List.head?_cons,
            List.getLast?_singleton, Option.any_some, List.mem_singleton, forall_eq,
            List.length_singleton, true_or, and_true]
          exact ⟨fun letter => ⟨letter, letter, letters letter⟩, fun all => all.1⟩
      | append_singleton middle last =>
          have nonempty : (middle ++ [last]).isEmpty = false := by simp
          have bounds : (middle.length + 1 + 1 = 1 ∨
              least + 2 ≤ middle.length + 1 + 1 ∧ middle.length + 1 + 1 ≤ 48) ↔
              least ≤ middle.length ∧ middle.length ≤ 46 := by omega
          simp only [matchesSlug, nonempty, List.dropLast_concat, List.getLast?_concat,
            Option.any_some, Bool.false_or, Bool.and_eq_true, decide_eq_true_eq,
            List.all_eq_true, List.length_cons, List.length_append,
            List.length_nil, Nat.zero_add, bounds, ← List.cons_append, List.mem_append,
            List.mem_cons, List.not_mem_nil, or_false]
          constructor
          · rintro ⟨begins, ⟨⟨low, high⟩, chars⟩, ends⟩
            refine ⟨begins, ends, ?_, low, high⟩
            rintro char ((rfl | inside) | rfl)
            · exact letters begins
            · exact chars char inside
            · exact letters ends
          · rintro ⟨begins, ends, chars, low, high⟩
            exact ⟨begins, ⟨⟨low, high⟩, fun char inside => chars char (.inl (.inr inside))⟩, ends⟩

/-- A text without a hyphen at its ends begins and ends with a letter. -/
theorem trimmed_ends {text : Text} (chars : ∀ char ∈ text, isSlugChar char)
    (nonempty : trim hyphen text ≠ []) : (trim hyphen text).head?.any isLetter ∧
      (trim hyphen text).getLast?.any isLetter := by
  have inside {char : Char} (here : char ∈ trim hyphen text) (other : char ≠ hyphen) :
      isLetter char := by
    have slugChar := chars char ((trim_sublist text).subset here)
    simpa [isSlugChar, other] using slugChar
  have begins := trim_head hyphen text
  have ends := trim_last hyphen text
  generalize trim hyphen text = slug at inside nonempty begins ends ⊢
  obtain ⟨first, rest, rfl⟩ := List.exists_cons_of_ne_nil nonempty
  constructor
  · exact inside List.mem_cons_self (by simpa using begins)
  · rw [List.getLast?_eq_some_getLast nonempty] at ends ⊢
    exact inside (List.getLast_mem nonempty) (by simpa using ends)

section Slugify

variable (lower : Text → Text) (text : Text)

/-- A slug is the words of the text joined by hyphens, cut, and trimmed after the cut. -/
theorem slugify_eq (maxLength : Nat) : slugify lower text maxLength =
    trim hyphen ((join hyphen (words isLetter (lower text))).take maxLength) := by
  have squeezed : Single hyphen (squeeze isLetter hyphen false (lower text)) :=
    (squeeze_single (by decide) false (lower text)).1
  have single := single_trim squeezed
  rw [trim_squeeze (by decide)] at single
  simp only [slugify]
  rw [subRuns_eq_squeeze, trim_squeeze (by decide), (subRuns_single single).1]

theorem words_slugChar {char : Char} (here : char ∈ join hyphen (words isLetter (lower text))) :
    isSlugChar char := by
  obtain rfl | ⟨word, among, inside⟩ := mem_join here
  · decide
  · simp [isSlugChar, (words_spec among).2 char inside]

theorem slugify_slugChar {maxLength : Nat} {char : Char}
    (here : char ∈ slugify lower text maxLength) : isSlugChar char := by
  rw [slugify_eq] at here
  exact words_slugChar lower text (List.mem_of_mem_take ((trim_sublist _).subset here))

theorem slugify_length_le (maxLength : Nat) : (slugify lower text maxLength).length ≤ maxLength := by
  rw [slugify_eq]
  exact (trim_sublist _).length_le.trans (List.length_take_le ..)

/-- All that can keep a slug from being recognised is a length of two. -/
theorem slugify_matches (nonempty : slugify lower text ≠ []) :
    matchesSlug 1 (slugify lower text) ↔ (slugify lower text).length ≠ 2 := by
  have chars : ∀ char ∈ slugify lower text, isSlugChar char :=
    fun _ => slugify_slugChar lower text
  have short := slugify_length_le lower text 48
  have ends : (slugify lower text).head?.any isLetter ∧
      (slugify lower text).getLast?.any isLetter := by
    have nonempty := nonempty
    rw [slugify_eq] at nonempty ⊢
    exact trimmed_ends (fun char here => words_slugChar lower text (List.mem_of_mem_take here)) nonempty
  have some := List.length_pos_iff.mpr nonempty
  rw [matchesSlug_iff]
  constructor
  · rintro ⟨-, -, -, length⟩
    omega
  · intro length
    exact ⟨ends.1, ends.2, chars, by omega⟩

/-- A slug has two characters exactly when the text is one word of two. -/
theorem slugify_length_two : (slugify lower text).length = 2 ↔
    ∃ word, words isLetter (lower text) = [word] ∧ word.length = 2 := by
  have squeezed : Single hyphen (squeeze isLetter hyphen false (lower text)) :=
    (squeeze_single (by decide) false (lower text)).1
  have single := single_trim squeezed
  have begins := trim_head hyphen (squeeze isLetter hyphen false (lower text))
  have ends := trim_last hyphen (squeeze isLetter hyphen false (lower text))
  rw [trim_squeeze (by decide)] at single begins ends
  rw [slugify_eq, ← join_length_two hyphen fun word here => (words_spec here).1]
  obtain short | long := Nat.le_total (join hyphen (words isLetter (lower text))).length 48
  · rw [List.take_of_length_le short, trim_eq_self begins ends]
  · -- The cut leaves at least forty-seven characters.
    have much := length_trim_take single begins long
    omega

theorem hexDigit_letter {digit : Nat} (small : digit < 16) : isLetter (hexDigit digit) := by
  have all : ∀ digit : Fin 16, isLetter (hexDigit digit) := by decide
  exact all ⟨digit, small⟩

theorem hexText_letters (data : List UInt8) {char : Char} (here : char ∈ hexText data) :
    isLetter char := by
  obtain ⟨byte, -, either⟩ := List.mem_flatMap.mp here
  have small := byte.toNat_lt
  simp only [List.mem_cons, List.not_mem_nil, or_false] at either
  obtain rfl | rfl := either
  · exact hexDigit_letter (Nat.div_lt_of_lt_mul small)
  · exact hexDigit_letter (Nat.mod_lt _ (by decide))

theorem hexText_length (data : List UInt8) : (hexText data).length = 2 * data.length := by
  induction data with
  | nil => rfl
  | cons byte rest ih =>
      rw [hexText, List.flatMap_cons, List.length_append, ← hexText, ih, List.length_cons]
      simp only [List.length_cons, List.length_nil]
      omega

/-- No reserved slug has a hyphen, and none has two characters. -/
theorem reserved_shape {slug : Text} (reserved : slug ∈ reservedSlugs) :
    hyphen ∉ slug ∧ slug.length ≠ 2 := by
  have all : ∀ slug ∈ reservedSlugs, hyphen ∉ slug ∧ slug.length ≠ 2 := by decide
  exact all slug reserved

/-- The stem of a suffixed slug, which is never empty. -/
theorem stem_shape : let stem := trim hyphen ((slugify lower text).take 39)
    let used := if stem = [] then "org".toList else stem
    used.head?.any isLetter ∧ (∀ char ∈ used, isSlugChar char) ∧ 0 < used.length ∧
      used.length ≤ 39 := by
  intro stem used
  have chars : ∀ char ∈ (slugify lower text).take 39, isSlugChar char := fun char here =>
    slugify_slugChar lower text (List.mem_of_mem_take here)
  by_cases empty : stem = []
  · have same : used = "org".toList := if_pos empty
    rw [same]
    have allowed : ("org".toList).all isSlugChar := by decide
    exact ⟨by decide, List.all_eq_true.mp allowed, by decide, by decide⟩
  · have same : used = stem := if_neg empty
    rw [same]
    refine ⟨(trimmed_ends chars empty).1, fun char here => chars char ((trim_sublist _).subset here),
      List.length_pos_iff.mpr empty, ?_⟩
    exact (trim_sublist _).length_le.trans (List.length_take_le ..)

theorem uniqueSlug_valid (random : Fin 3 → UInt8) : isValidSlug (uniqueSlug lower text random) := by
  obtain ⟨begins, chars, some, short⟩ := stem_shape lower text
  simp only [uniqueSlug]
  generalize (if trim hyphen ((slugify lower text).take 39) = [] then "org".toList
    else trim hyphen ((slugify lower text).take 39)) = stem at begins chars some short ⊢
  have letters : ∀ char ∈ hexText (List.ofFn random), isLetter char :=
    fun _ => hexText_letters (List.ofFn random)
  have length : (hexText (List.ofFn random)).length = 6 := by
    rw [hexText_length, List.length_ofFn]
  generalize hexText (List.ofFn random) = suffix at letters length ⊢
  have ended : suffix ≠ [] := List.length_pos_iff.mp (by omega)
  have shape : matchesSlug 1 (stem ++ hyphen :: suffix) := by
    rw [matchesSlug_iff]
    refine ⟨?_, ?_, ?_, .inr ?_⟩
    · rwa [List.head?_append_of_ne_nil _ (List.length_pos_iff.mp some)]
    · rw [List.getLast?_append_of_ne_nil _ (List.cons_ne_nil _ _), List.getLast?_cons,
        List.getLast?_eq_some_getLast ended]
      exact letters _ (List.getLast_mem ended)
    · intro char here
      obtain before | rfl | after := by simpa using here
      · exact chars char before
      · decide
      · simp [isSlugChar, letters char after]
    · rw [List.length_append, List.length_cons]
      omega
  have unreserved : stem ++ hyphen :: suffix ∉ reservedSlugs := fun reserved =>
    (reserved_shape reserved).1 (List.mem_append_right _ List.mem_cons_self)
  exact isValidSlug_iff.mpr ⟨shape, unreserved⟩

end Slugify

/-- What a name and an explicit slug should come to. -/
structure SlugsUsable (lower : Text → Text) (name slug : Text) : Prop where
  derived : slugify lower name = [] ∨ slugify lower name ∈ reservedSlugs ∨
    isValidSlug (slugify lower name)
  unique : ∀ random, isValidSlug (uniqueSlug lower name random)
  settled : ∀ taken random error, settleSlug lower none name taken random = .error error →
    error.slug ∈ reservedSlugs
  admitted : admitsSlug slug → slug ∉ reservedSlugs → isValidSlug slug

/-- Without an explicit slug, what is refused is what the name became. -/
theorem settleSlug_error {lower : Text → Text} {name : Text} {taken : Text → Bool}
    {random : Fin 3 → UInt8} {error : SlugUnavailable} :
    settleSlug lower none name taken random = .error error ↔
      error.slug = slugify lower name ∧ slugify lower name ≠ [] ∧
        ¬isValidSlug (slugify lower name) := by
  obtain ⟨slug⟩ := error
  simp only [settleSlug]
  split
  · next refused => simp [refused, eq_comm]
  · next allowed =>
    constructor
    · intro failed
      split at failed <;> cases failed
    · rintro ⟨-, refused⟩
      exact absurd refused allowed

/-- The recogniser takes one character or three to forty-eight, the other two take two as well. -/
theorem slugs_usable_iff (lower : Text → Text) (name slug : Text) :
    SlugsUsable lower name slug ↔
      (¬∃ word, words isLetter (lower name) = [word] ∧ word.length = 2) ∧
        ¬(slug.length = 2 ∧ ∀ char ∈ slug, isLetter char) := by
  rw [← slugify_length_two lower name]
  constructor
  · intro usable
    constructor
    · intro two
      have nonempty : slugify lower name ≠ [] := List.length_pos_iff.mp (by omega)
      obtain empty | reserved | valid := usable.derived
      · exact nonempty empty
      · exact (reserved_shape reserved).2 two
      · have shape := (isValidSlug_iff.mp valid).1
        exact (slugify_matches lower name nonempty).mp shape two
    · rintro ⟨two, letters⟩
      have admitted : admitsSlug slug := by
        obtain ⟨first, last, rfl⟩ := List.length_eq_two.mp two
        simp_all [admitsSlug, matchesSlug]
      have valid := usable.admitted admitted fun reserved => (reserved_shape reserved).2 two
      have length := (matchesSlug_iff.mp (isValidSlug_iff.mp valid).1).2.2.2
      omega
  · rintro ⟨name_length, slug_length⟩
    have derived : slugify lower name = [] ∨ slugify lower name ∈ reservedSlugs ∨
        isValidSlug (slugify lower name) := by
      by_cases empty : slugify lower name = []
      · exact .inl empty
      · by_cases reserved : slugify lower name ∈ reservedSlugs
        · exact .inr (.inl reserved)
        · have shape := (slugify_matches lower name empty).mpr name_length
          exact .inr (.inr (isValidSlug_iff.mpr ⟨shape, reserved⟩))
    refine ⟨derived, uniqueSlug_valid lower name, ?_, ?_⟩
    · intro taken random error failed
      obtain ⟨same, nonempty, invalid⟩ := settleSlug_error.mp failed
      obtain empty | reserved | valid := derived
      · exact absurd empty nonempty
      · rwa [same]
      · exact absurd valid invalid
    · intro admitted unreserved
      obtain ⟨begins, ends, chars, length⟩ := matchesSlug_iff.mp admitted
      have other : slug.length ≠ 2 := by
        intro two
        refine slug_length ⟨two, ?_⟩
        obtain ⟨first, last, rfl⟩ := List.length_eq_two.mp two
        simp_all
      have shape : matchesSlug 1 slug := matchesSlug_iff.mpr ⟨begins, ends, chars, by omega⟩
      exact isValidSlug_iff.mpr ⟨shape, unreserved⟩

/-- `HR` becomes a slug of two letters, which the schema admits and the recogniser does not:
the organization is refused for a slug that nobody reserved. -/
theorem two_letter_name_refused :
    slugify (·.map Char.toLower) "HR".toList = "hr".toList ∧
      settleSlug (·.map Char.toLower) none "HR".toList (fun _ => false) (fun _ => 0) =
        .error ⟨"hr".toList⟩ ∧
      "hr".toList ∉ reservedSlugs ∧ admitsSlug "hr".toList ∧ ¬isValidSlug "hr".toList ∧
      ¬SlugsUsable (·.map Char.toLower) "HR".toList "hr".toList := by
  have refused : settleSlug (·.map Char.toLower) none "HR".toList (fun _ => false) (fun _ => 0) =
      .error ⟨"hr".toList⟩ := by decide
  have unreserved : "hr".toList ∉ reservedSlugs := by decide
  refine ⟨by decide, refused, unreserved, by decide, by decide, fun usable => ?_⟩
  exact unreserved (usable.settled _ _ _ refused)

end SynapseSaas.Slugs
