/-!
# Blank characters — what trimming removes

  A character is blank when it has the Unicode property `White_Space`: the control
  characters from tab to carriage return, the space, the next-line control, the
  no-break space and the spaces and separators of the higher planes. The zero-width
  space, the byte order mark and the information separators are not blank.

  Every trimming in this library removes exactly these characters, and only at the
  ends of a text.
-/

namespace Admission.Text

/-! ### The class -/

/-- The Unicode property `White_Space`. -/
def isBlank (c : Char) : Bool :=
  let n := c.toNat
  (0x09 ≤ n && n ≤ 0x0d) || n == 0x20 || n == 0x85 || n == 0xa0 || n == 0x1680 ||
  (0x2000 ≤ n && n ≤ 0x200a) || n == 0x2028 || n == 0x2029 || n == 0x202f ||
  n == 0x205f || n == 0x3000

theorem isBlank_return : isBlank '\r' = true := by decide

/-! ### Trimming -/

/-- The characters from the first one that is not blank. -/
def trimLeft (cs : List Char) : List Char :=
  cs.dropWhile isBlank

/-- The characters up to the last one that is not blank. -/
def trimRight : List Char → List Char
  | [] => []
  | c :: cs =>
    match trimRight cs with
    | [] => if isBlank c then [] else [c]
    | d :: ds => c :: d :: ds

/-- The characters between the first and the last one that are not blank. -/
def trimBoth (cs : List Char) : List Char :=
  trimRight (trimLeft cs)

/-- A text without the blank characters at its ends. -/
def trim (s : String) : String :=
  String.ofList (trimBoth s.toList)

/-- Whether a text holds nothing but blank characters. -/
def isBlankText (s : String) : Bool :=
  s.toList.all isBlank

/-- Whether a text begins with a blank character. -/
def startsBlank (s : String) : Bool :=
  s.toList.head?.any isBlank

/-- Whether a text ends with a blank character. -/
def endsBlank (s : String) : Bool :=
  s.toList.getLast?.any isBlank

/-! ### Small laws -/

@[simp] theorem trimLeft_nil : trimLeft [] = [] := rfl

@[simp] theorem trimRight_nil : trimRight [] = [] := rfl

theorem trimLeft_cons_blank {c : Char} (h : isBlank c = true) (cs : List Char) :
    trimLeft (c :: cs) = trimLeft cs := by
  simp [trimLeft, h]

theorem trimLeft_cons_solid {c : Char} (h : isBlank c = false) (cs : List Char) :
    trimLeft (c :: cs) = c :: cs := by
  simp [trimLeft, h]

/-- Trimming on the right leaves a text of blanks empty, and no other. -/
theorem trimRight_eq_nil_iff (cs : List Char) :
    trimRight cs = [] ↔ cs.all isBlank = true := by
  induction cs with
  | nil => simp
  | cons c cs ih =>
    unfold trimRight
    cases h : trimRight cs with
    | nil =>
      have hc := ih.1 h
      by_cases hb : isBlank c <;> simp_all
    | cons d ds =>
      have hc : cs.all isBlank ≠ true := fun he => by simp [ih.2 he] at h
      simp only [List.all_cons, Bool.and_eq_true]
      exact ⟨fun he => absurd he (List.cons_ne_nil _ _), fun he => absurd he.2 hc⟩

end Admission.Text
