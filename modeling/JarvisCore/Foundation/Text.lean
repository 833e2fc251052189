import Mathlib.Algebra.Group.Nat.Defs
import Mathlib.Data.List.DropRight

namespace JarvisCore.Foundation.Text

/-- The whitespace characters that `str.strip` removes. -/
def isSpace (c : Char) : Bool :=
  let n := c.toNat
  (9 ≤ n && n ≤ 13) || (28 ≤ n && n ≤ 32) || n = 0x85 || n = 0xA0 || n = 0x1680 ||
    (0x2000 ≤ n && n ≤ 0x200A) || n = 0x2028 || n = 0x2029 || n = 0x202F ||
    n = 0x205F || n = 0x3000

/-- A Python `str`: code points, among which there may be surrogates. -/
abbrev PyText := List (Fin 0x110000)

namespace PyText

def ofChar (c : Char) : Fin 0x110000 :=
  ⟨c.toNat, by
    rcases c.valid with h | ⟨-, h⟩
    · exact Nat.lt_trans h (by decide)
    · exact h⟩

def scalar? (p : Fin 0x110000) : Option Char :=
  if p.val.isValidChar then some (Char.ofNat p.val) else none

def ofString (s : String) : PyText := s.toList.map ofChar

/-- The text, unless it has a surrogate. -/
def text? (t : PyText) : Option String := (t.mapM scalar?).map String.ofList

theorem scalar?_eq_some {p : Fin 0x110000} {c : Char} : scalar? p = some c ↔ p = ofChar c := by
  unfold scalar?
  constructor
  · intro h
    split at h
    · rename_i hvalid
      cases h
      rw [Char.ofNat, dif_pos hvalid]
      rfl
    · cases h
  · rintro rfl
    exact (if_pos c.valid).trans (congrArg some (Char.ofNat_toNat c))

theorem text?_eq_some {t : PyText} {s : String} : t.text? = some s ↔ t = ofString s := by
  have hchars (l : List Char) : t.mapM scalar? = some l ↔ t = l.map ofChar := by
    induction t generalizing l with
    | nil => cases l <;> simp
    | cons p t ih =>
        cases l with
        | nil => simp [List.mapM_cons, Option.bind_eq_some_iff]
        | cons c l => simp [List.mapM_cons, Option.bind_eq_some_iff, scalar?_eq_some, ih]
  rw [text?, Option.map_eq_some_iff]
  constructor
  · rintro ⟨l, hl, rfl⟩
    rw [(hchars l).mp hl, ofString, String.toList_ofList]
  · rintro rfl
    exact ⟨s.toList, (hchars _).mpr rfl, String.ofList_toList⟩

@[simp] theorem text?_ofString (s : String) : (ofString s).text? = some s := text?_eq_some.mpr rfl

end PyText

/-- The Unicode tables behind `str.isalpha`, `str.isalnum` and the digits that
`int` reads. -/
structure CharacterClasses where
  isAlpha : Char → Bool
  isAlnum : Char → Bool
  decimal : Char → Option (Fin 10)

/-- The Unicode tables behind `str.title`. What a character becomes in lower case may
depend on the characters before and after it. -/
structure TitleTables where
  isCased : Char → Bool
  titleCase : Char → List Char
  lowerCase : List Char → Char → List Char → List Char

/-- `str.title` after the characters `before`. -/
def titleFrom (tables : TitleTables) : List Char → Bool → List Char → List Char
  | _, _, [] => []
  | before, previousCased, c :: rest =>
      (if previousCased then tables.lowerCase before c rest else tables.titleCase c) ++
        titleFrom tables (before ++ [c]) (tables.isCased c) rest

def title (tables : TitleTables) (s : String) : String :=
  String.ofList (titleFrom tables [] false s.toList)

/-- `str.replace` of one character by another. -/
def replaceChar (old new : Char) (s : String) : String :=
  String.ofList (s.toList.map fun c => if c = old then new else c)

def stripList (space : Char → Bool) (l : List Char) : List Char :=
  (l.dropWhile space).rdropWhile space

def strip (s : String) : String := String.ofList (stripList isSpace s.toList)

/-- `str.replace(pattern, "")` with a pattern of `skip + 1` further characters to
pass over after a match. -/
def removeAll (pattern : List Char) : Nat → List Char → List Char
  | _, [] => []
  | skip + 1, _ :: rest => removeAll pattern skip rest
  | 0, c :: rest =>
      if pattern.isPrefixOf (c :: rest) then removeAll pattern (pattern.length - 1) rest
      else c :: removeAll pattern 0 rest

def splitOn (separator : Char) : List Char → List (List Char)
  | [] => [[]]
  | c :: rest =>
      if c = separator then [] :: splitOn separator rest
      else
        match splitOn separator rest with
        | [] => [[c]]
        | part :: parts => (c :: part) :: parts

def hexValue (c : Char) : Option Nat :=
  if '0' ≤ c ∧ c ≤ '9' then some (c.toNat - '0'.toNat)
  else if 'a' ≤ c ∧ c ≤ 'f' then some (c.toNat - 'a'.toNat + 10)
  else if 'A' ≤ c ∧ c ≤ 'F' then some (c.toNat - 'A'.toNat + 10)
  else none

def readHex : Nat → Bool → List Char → Option Nat
  | value, afterDigit, [] => if afterDigit then some value else none
  | value, afterDigit, c :: rest =>
      if c = '_' then if afterDigit then readHex value false rest else none
      else
        match hexValue c with
        | some digit => readHex (16 * value + digit) true rest
        | none => none

/-- What `int` makes of a character of a string that is not plain ASCII. -/
def transformDecimal (classes : CharacterClasses) (c : Char) : Char :=
  if c.toNat < 127 then c
  else if isSpace c then ' '
  else
    match classes.decimal c with
    | some digit => Nat.digitChar digit
    | none => '?'

def isAsciiSpace (c : Char) : Bool := c = ' ' || (9 ≤ c.toNat && c.toNat ≤ 13)

/-- `int(text, 16)`; the sign and the `0x` are optional. -/
def intBase16 (classes : CharacterClasses) (text : List Char) : Option Int :=
  let magnitude : List Char → Option Nat
    | '0' :: 'x' :: rest | '0' :: 'X' :: rest =>
        readHex 0 false (if rest.head? = some '_' then rest.tail else rest)
    | digits => readHex 0 false digits
  match stripList isAsciiSpace (text.map (transformDecimal classes)) with
  | '+' :: digits => (magnitude digits).map fun n => (n : Int)
  | '-' :: digits => (magnitude digits).map fun n => -(n : Int)
  | digits => (magnitude digits).map fun n => (n : Int)

theorem dropWhile_stripList (space : Char → Bool) (l : List Char) :
    (stripList space l).dropWhile space = stripList space l := by
  have hpre : stripList space l <+: l.dropWhile space := List.rdropWhile_prefix space _
  rw [List.dropWhile_eq_self_iff]
  intro hpos
  rw [hpre.getElem hpos]
  exact List.dropWhile_get_zero_not space l (lt_of_lt_of_le hpos hpre.length_le)

theorem stripList_stripList (space : Char → Bool) (l : List Char) :
    stripList space (stripList space l) = stripList space l := by
  rw [stripList, dropWhile_stripList, stripList, List.rdropWhile_idempotent]

theorem strip_strip (s : String) : strip (strip s) = strip s := by
  simp [strip, stripList_stripList]

theorem stripList_eq_self {space : Char → Bool} {l : List Char}
    (h : ∀ c ∈ l, space c = false) : stripList space l = l := by
  have hfront : l.dropWhile space = l := by
    rw [List.dropWhile_eq_self_iff]
    intro hpos
    rw [h _ (List.getElem_mem hpos)]
    exact Bool.false_ne_true
  rw [stripList, hfront, List.rdropWhile_eq_self_iff]
  intro hne
  rw [h _ (List.getLast_mem hne)]
  exact Bool.false_ne_true

theorem removeAll_eq_self {first : Char} {pattern l : List Char} (h : first ∉ l) :
    removeAll (first :: pattern) 0 l = l := by
  induction l with
  | nil => rfl
  | cons c rest ih =>
      rw [List.mem_cons, not_or] at h
      have hdiffers : (first :: pattern).isPrefixOf (c :: rest) = false := by
        simp [List.isPrefixOf, h.1]
      rw [removeAll, hdiffers, ih h.2]
      rfl

theorem removeAll_singleton (c : Char) (l : List Char) :
    removeAll [c] 0 l = l.filter (· ≠ c) := by
  induction l with
  | nil => rfl
  | cons d rest ih =>
      have hprefix : List.isPrefixOf [c] (d :: rest) = decide (c = d) := by
        rw [List.isPrefixOf, List.isPrefixOf, Bool.and_true, beq_eq_decide]
      rw [removeAll, hprefix, List.filter_cons]
      rcases eq_or_ne c d with rfl | h
      · simpa using ih
      · simpa [h, h.symm] using ih

theorem splitOn_eq_singleton {separator : Char} {part : List Char} (h : separator ∉ part) :
    splitOn separator part = [part] := by
  induction part with
  | nil => rfl
  | cons c rest ih =>
      rw [List.mem_cons, not_or] at h
      rw [splitOn, if_neg (Ne.symm h.1), ih h.2]

theorem splitOn_append {separator : Char} {part : List Char} (h : separator ∉ part)
    (rest : List Char) :
    splitOn separator (part ++ separator :: rest) = part :: splitOn separator rest := by
  induction part with
  | nil => simp [splitOn]
  | cons c part ih =>
      rw [List.mem_cons, not_or] at h
      rw [List.cons_append, splitOn, if_neg (Ne.symm h.1), ih h.2]

def hexDigits (n : Nat) : Nat → List Char
  | 0 => []
  | count + 1 => Nat.digitChar (n / 16 ^ count % 16) :: hexDigits n count

theorem length_hexDigits (n count : Nat) : (hexDigits n count).length = count := by
  induction count with
  | zero => rfl
  | succ count ih => rw [hexDigits, List.length_cons, ih]

theorem exists_of_mem_hexDigits {n count : Nat} {c : Char} (h : c ∈ hexDigits n count) :
    ∃ d < 16, c = Nat.digitChar d := by
  induction count with
  | zero => cases h
  | succ count ih =>
      rcases List.mem_cons.mp h with rfl | h
      · exact ⟨_, Nat.mod_lt _ (by decide), rfl⟩
      · exact ih h

theorem hexValue_digitChar {d : Nat} (h : d < 16) : hexValue (Nat.digitChar d) = some d := by
  decide +revert

theorem digitChar_notMem {d : Nat} (h : d < 16) :
    Nat.digitChar d ∉ ['_', '+', '-', 'x', 'X', '.', 'u', '{', '}', ' '] ∧
      13 < (Nat.digitChar d).toNat ∧ (Nat.digitChar d).toNat < 127 := by
  decide +revert

theorem isAsciiSpace_digitChar {d : Nat} (h : d < 16) :
    isAsciiSpace (Nat.digitChar d) = false := by
  decide +revert

theorem notMem_hexDigits {n count : Nat} {c : Char}
    (h : c ∈ ['_', '+', '-', 'x', 'X', '.', 'u', '{', '}', ' ']) : c ∉ hexDigits n count := by
  intro hc
  obtain ⟨d, hd, rfl⟩ := exists_of_mem_hexDigits hc
  exact (digitChar_notMem hd).1 h

theorem readHex_hexDigits (n count : Nat) {afterDigit : Bool}
    (h : afterDigit = true ∨ 0 < count) :
    readHex (n / 16 ^ count) afterDigit (hexDigits n count) = some n := by
  induction count generalizing afterDigit with
  | zero => simpa [readHex, hexDigits] using h
  | succ count ih =>
      have hdigit : n / 16 ^ count % 16 < 16 := Nat.mod_lt _ (by decide)
      have hne : Nat.digitChar (n / 16 ^ count % 16) ≠ '_' := by
        intro heq
        exact (digitChar_notMem hdigit).1 (heq ▸ List.mem_cons_self)
      have hvalue : 16 * (n / 16 ^ (count + 1)) + n / 16 ^ count % 16 = n / 16 ^ count := by
        rw [Nat.pow_succ, ← Nat.div_div_eq_div_mul]
        exact Nat.div_add_mod _ _
      rw [hexDigits, readHex, if_neg hne, hexValue_digitChar hdigit]
      show readHex (16 * (n / 16 ^ (count + 1)) + n / 16 ^ count % 16) true _ = _
      rw [hvalue]
      exact ih (Or.inl rfl)

/-- `int` reads plain hexadecimal digits whatever the tables for other characters are. -/
theorem intBase16_hexDigits (classes : CharacterClasses) {n count : Nat} (hpos : 0 < count)
    (hn : n < 16 ^ count) : intBase16 classes (hexDigits n count) = some (n : Int) := by
  have hread : readHex 0 false (hexDigits n count) = some n := by
    have h : readHex (n / 16 ^ count) false (hexDigits n count) = some n :=
      readHex_hexDigits n count (Or.inr hpos)
    rwa [Nat.div_eq_of_lt hn] at h
  have hmap : (hexDigits n count).map (transformDecimal classes) = hexDigits n count := by
    refine (List.map_congr_left ?_).trans (List.map_id _)
    intro c hc
    obtain ⟨d, hd, rfl⟩ := exists_of_mem_hexDigits hc
    exact if_pos (digitChar_notMem hd).2.2
  have hstrip : stripList isAsciiSpace (hexDigits n count) = hexDigits n count := by
    apply stripList_eq_self
    intro c hc
    obtain ⟨d, hd, rfl⟩ := exists_of_mem_hexDigits hc
    exact isAsciiSpace_digitChar hd
  have hplus : '+' ∉ hexDigits n count := notMem_hexDigits (by decide)
  have hminus : '-' ∉ hexDigits n count := notMem_hexDigits (by decide)
  have hlower : 'x' ∉ hexDigits n count := notMem_hexDigits (by decide)
  have hupper : 'X' ∉ hexDigits n count := notMem_hexDigits (by decide)
  unfold intBase16
  rw [hmap, hstrip]
  generalize hexDigits n count = digits at *
  split
  · exact absurd List.mem_cons_self hplus
  · exact absurd List.mem_cons_self hminus
  · dsimp only
    split
    · exact absurd (List.mem_cons_of_mem _ List.mem_cons_self) hlower
    · exact absurd (List.mem_cons_of_mem _ List.mem_cons_self) hupper
    · rw [hread]
      rfl

end JarvisCore.Foundation.Text
