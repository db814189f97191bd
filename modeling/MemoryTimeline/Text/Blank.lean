/-!
# White space

Tags and numerals in a document are read after the white space around them has
been removed. White space here is the Unicode property `White_Space`, which is
larger than the ASCII class of `Char.isWhitespace`.
-/

namespace MemoryTimeline.Text

/-- The inclusive code point ranges of the Unicode property `White_Space`. -/
def blankRanges : List (Nat × Nat) :=
  [(0x09, 0x0D), (0x20, 0x20), (0x85, 0x85), (0xA0, 0xA0), (0x1680, 0x1680), (0x2000, 0x200A),
    (0x2028, 0x2029), (0x202F, 0x202F), (0x205F, 0x205F), (0x3000, 0x3000)]

/-- Whether a character has the property `White_Space`. -/
def isBlank (character : Char) : Bool :=
  blankRanges.any fun (first, last) => first ≤ character.toNat && character.toNat ≤ last

/-- Remove the blanks at both ends. -/
def trimBlanks (characters : List Char) : List Char :=
  ((characters.dropWhile isBlank).reverse.dropWhile isBlank).reverse

/-- Remove the blanks at both ends of a text. -/
def trim (text : String) : String :=
  String.ofList (trimBlanks text.toList)

/-- What is left when leading blanks are dropped does not begin with a blank. -/
theorem not_isBlank_of_mem_head?_dropWhile {characters : List Char} {character : Char}
    (first : character ∈ (characters.dropWhile isBlank).head?) : isBlank character = false := by
  have stopped := List.head?_dropWhile_not isBlank characters
  rw [Option.mem_def.mp first] at stopped
  exact stopped

/-- Blanks before characters that do not begin with one are all that is dropped. -/
theorem dropWhile_isBlank_append {blanks rest : List Char}
    (blank : ∀ character ∈ blanks, isBlank character = true)
    (begins : ∀ character ∈ rest.head?, isBlank character = false) :
    (blanks ++ rest).dropWhile isBlank = rest := by
  rw [List.dropWhile_append_of_pos blank]
  cases rest with
  | nil => rfl
  | cons first rest =>
      have notBlank := begins first rfl
      exact List.dropWhile_cons_of_neg (by simp [notBlank])

/-- Trimming removes the blanks before and after a text that begins and ends with no blank. -/
theorem trimBlanks_eq_iff {characters trimmed : List Char} :
    trimBlanks characters = trimmed ↔
      ∃ before after, characters = before ++ trimmed ++ after ∧
        (∀ character ∈ before, isBlank character = true) ∧
        (∀ character ∈ after, isBlank character = true) ∧
        (∀ character ∈ trimmed.head?, isBlank character = false) ∧
        ∀ character ∈ trimmed.getLast?, isBlank character = false := by
  constructor
  · rintro rfl
    let rest := characters.dropWhile isBlank
    have joined : characters.takeWhile isBlank ++ rest = characters :=
      List.takeWhile_append_dropWhile
    have restJoined : trimBlanks characters ++ (rest.reverse.takeWhile isBlank).reverse = rest := by
      rw [trimBlanks, ← List.reverse_append, List.takeWhile_append_dropWhile, List.reverse_reverse]
    refine ⟨characters.takeWhile isBlank, (rest.reverse.takeWhile isBlank).reverse, ?_, ?_, ?_, ?_,
      ?_⟩
    · rw [List.append_assoc, restJoined, joined]
    · exact List.all_eq_true.mp List.all_takeWhile
    · intro character member
      exact List.all_eq_true.mp List.all_takeWhile character (List.mem_reverse.mp member)
    · intro character first
      have restFirst : character ∈ rest.head? := by
        rw [← restJoined, List.head?_append, Option.mem_def.mp first]
        rfl
      exact not_isBlank_of_mem_head?_dropWhile restFirst
    · intro character last
      rw [trimBlanks, List.getLast?_reverse] at last
      exact not_isBlank_of_mem_head?_dropWhile last
  · rintro ⟨before, after, rfl, blankBefore, blankAfter, begins, ends⟩
    have blankReversed : ∀ character ∈ after.reverse, isBlank character = true :=
      fun character member => blankAfter character (List.mem_reverse.mp member)
    cases trimmed with
    | nil =>
        -- Where nothing is left, the blanks at both ends are dropped from the front.
        have blank : ∀ character ∈ before ++ after, isBlank character = true :=
          fun character member =>
            (List.mem_append.mp member).elim (blankBefore character) (blankAfter character)
        have dropped : (before ++ after ++ []).dropWhile isBlank = [] :=
          dropWhile_isBlank_append blank nofun
        rw [List.append_nil] at dropped ⊢
        rw [trimBlanks, dropped]
        rfl
    | cons first rest =>
        have restBegins : ∀ character ∈ (first :: rest ++ after).head?,
            isBlank character = false := begins
        have reversedBegins : ∀ character ∈ (first :: rest).reverse.head?,
            isBlank character = false := by rwa [List.head?_reverse]
        rw [trimBlanks, List.append_assoc, dropWhile_isBlank_append blankBefore restBegins,
          List.reverse_append, dropWhile_isBlank_append blankReversed reversedBegins,
          List.reverse_reverse]

/-- A trimmed text is the text without the blanks at its ends. -/
theorem trim_eq_iff {text trimmed : String} :
    trim text = trimmed ↔
      ∃ before after, text.toList = before ++ trimmed.toList ++ after ∧
        (∀ character ∈ before, isBlank character = true) ∧
        (∀ character ∈ after, isBlank character = true) ∧
        (∀ character ∈ trimmed.toList.head?, isBlank character = false) ∧
        ∀ character ∈ trimmed.toList.getLast?, isBlank character = false := by
  rw [← trimBlanks_eq_iff, ← String.toList_inj, trim, String.toList_ofList]

end MemoryTimeline.Text
