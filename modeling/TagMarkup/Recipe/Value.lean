import TagMarkup.Parsing.Room
import TagMarkup.Text.Spelling

/-!
# Values of recipes

Parsers that are written as data yield values of one type. A value is made of characters, texts
and numbers; `spelling` gives its characters in order, with numbers in decimal.
-/

namespace TagMarkup

/-- A value of a recipe. -/
inductive Value where
  | unit
  | number (n : Nat)
  | char (c : Char)
  | chars (cs : List Char)
  | str (s : String)
  | list (vs : List Value)
  | pair (a b : Value)
deriving Inhabited

/-- A value takes the bytes of a text and of a mark that tells what it is. -/
instance : Sized Value := ⟨32⟩

namespace Value

mutual

/-- The characters of a value, in front of others. -/
def spellingFrom (after : List Char) : Value → List Char
  | unit => after
  | number n => (toString n).toList ++ after
  | char c => c :: after
  | chars cs => cs ++ after
  | str s => s.toList ++ after
  | list vs => spellingAll after vs
  | pair a b => spellingFrom (spellingFrom after b) a

/-- The characters of a sequence of values, in front of others. -/
def spellingAll (after : List Char) : List Value → List Char
  | [] => after
  | v :: vs => spellingFrom (spellingAll after vs) v

end

instance : Spelled Value := ⟨spellingFrom []⟩

mutual

theorem spellingFrom_append (after more : List Char) :
    ∀ v, spellingFrom (after ++ more) v = spellingFrom after v ++ more
  | unit => rfl
  | number _ | char _ | chars _ | str _ => by simp [spellingFrom]
  | list vs => by simp [spellingFrom, spellingAll_append after more vs]
  | pair a b => by
    simp [spellingFrom, spellingFrom_append after more b, spellingFrom_append _ more a]

theorem spellingAll_append (after more : List Char) :
    ∀ vs, spellingAll (after ++ more) vs = spellingAll after vs ++ more
  | [] => rfl
  | v :: vs => by
    simp [spellingAll, spellingAll_append after more vs, spellingFrom_append _ more v]

end

/-- The characters in front of others are those of the value by itself. -/
theorem spellingFrom_eq (after : List Char) (v : Value) :
    spellingFrom after v = spelling v ++ after := by
  simpa [spelling] using spellingFrom_append [] after v

theorem spellingAll_eq (after : List Char) (vs : List Value) :
    spellingAll after vs = spelling vs ++ after := by
  induction vs with
  | nil => rfl
  | cons v vs ih =>
    rw [spellingAll, spellingFrom_eq, ih, ← List.append_assoc]
    rfl

/-! ## How values are spelled -/

@[simp] theorem spelling_unit : spelling unit = [] := rfl
@[simp] theorem spelling_char (c : Char) : spelling (char c) = [c] := rfl

@[simp] theorem spelling_chars (cs : List Char) : spelling (chars cs) = cs :=
  List.append_nil cs

@[simp] theorem spelling_str (s : String) : spelling (str s) = s.toList :=
  List.append_nil s.toList

@[simp] theorem spelling_number (n : Nat) : spelling (number n) = (toString n).toList :=
  List.append_nil (toString n).toList

@[simp] theorem spelling_list (vs : List Value) : spelling (list vs) = spelling vs :=
  (spellingAll_eq [] vs).trans (List.append_nil _)

@[simp] theorem spelling_pair (a b : Value) :
    spelling (pair a b) = spelling a ++ spelling b :=
  spellingFrom_eq (spellingFrom [] b) a

/-- The parts of a value: the elements of characters or of a list, or else the value itself. -/
def items : Value → List Value
  | chars cs => cs.map char
  | list vs => vs
  | v => [v]

/-! ## Equality -/

mutual

/-- Decides whether two values are equal. -/
def decEq : (a b : Value) → Decidable (a = b)
  | unit, unit => isTrue rfl
  | number m, number n => if h : m = n then isTrue (h ▸ rfl) else isFalse fun e => by simp_all
  | char c, char d => if h : c = d then isTrue (h ▸ rfl) else isFalse fun e => by simp_all
  | chars c, chars d => if h : c = d then isTrue (h ▸ rfl) else isFalse fun e => by simp_all
  | str s, str t => if h : s = t then isTrue (h ▸ rfl) else isFalse fun e => by simp_all
  | list as, list bs =>
    match decEqList as bs with
    | isTrue h => isTrue (h ▸ rfl)
    | isFalse h => isFalse fun e => by simp_all
  | pair a b, pair c d =>
    match decEq a c, decEq b d with
    | isTrue h, isTrue k => isTrue (by rw [h, k])
    | isFalse h, _ => isFalse fun e => by simp_all
    | _, isFalse h => isFalse fun e => by simp_all
  | unit, number _ | unit, char _ | unit, chars _ | unit, str _ | unit, list _ | unit, pair ..
  | number _, unit | number _, char _ | number _, chars _ | number _, str _ | number _, list _
  | number _, pair .. | char _, unit | char _, number _ | char _, chars _ | char _, str _
  | char _, list _ | char _, pair .. | chars _, unit | chars _, number _ | chars _, char _
  | chars _, str _ | chars _, list _ | chars _, pair .. | str _, unit | str _, number _
  | str _, char _ | str _, chars _ | str _, list _ | str _, pair .. | list _, unit
  | list _, number _ | list _, char _ | list _, chars _ | list _, str _ | list _, pair ..
  | pair .., unit | pair .., number _ | pair .., char _ | pair .., chars _ | pair .., str _
  | pair .., list _ => isFalse fun e => by simp at e

/-- Decides whether two sequences of values are equal. -/
def decEqList : (as bs : List Value) → Decidable (as = bs)
  | [], [] => isTrue rfl
  | a :: as, b :: bs =>
    match decEq a b, decEqList as bs with
    | isTrue h, isTrue k => isTrue (by rw [h, k])
    | isFalse h, _ => isFalse fun e => by simp_all
    | _, isFalse h => isFalse fun e => by simp_all
  | [], _ :: _ | _ :: _, [] => isFalse fun e => by simp at e

end

instance : DecidableEq Value := decEq

end Value

end TagMarkup
