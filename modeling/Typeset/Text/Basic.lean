/-!
Text as the list of its characters, so that every scanner is a recursion on the text itself.
-/

namespace Typeset

abbrev Text := List Char

instance : Coe String Text := ⟨String.toList⟩

namespace Text

def after? : Text → Text → Option Text
  | [], text => some text
  | _ :: _, [] => none
  | expected :: opening, found :: rest =>
      if expected = found then after? opening rest else none

def splitAt? (sought : Text) : Text → Option (Text × Text)
  | [] => (after? sought []).map fun rest => ([], rest)
  | head :: tail =>
      match after? sought (head :: tail) with
      | some rest => some ([], rest)
      | none => (splitAt? sought tail).map fun (before, rest) => (head :: before, rest)

def afterLast? (sought : Text) : Text → Option Text
  | [] => after? sought []
  | head :: tail => (afterLast? sought tail).or (after? sought (head :: tail))

def dropEndWhile (test : α → Bool) (items : List α) : List α :=
  (items.reverse.dropWhile test).reverse

def contains (sought text : Text) : Bool :=
  (splitAt? sought text).isSome

/-- The pieces between separators; there is one more of them than of separators. -/
def splitOn (separator : Char) : Text → List Text
  | [] => [[]]
  | head :: tail =>
      if head = separator then [] :: splitOn separator tail
      else
        match splitOn separator tail with
        | [] => [[head]]
        | piece :: pieces => (head :: piece) :: pieces

def joinWith (separator : Text) : List Text → Text
  | [] => []
  | [piece] => piece
  | piece :: next :: pieces => piece ++ separator ++ joinWith separator (next :: pieces)

def byteLength : Text → Nat
  | [] => 0
  | c :: rest => c.utf8Size + byteLength rest

def ofNat (number : Nat) : Text :=
  Nat.toDigits 10 number

/-- Replaces each occurrence of a text, from left to right; inserted text is not searched again.
An empty text is never sought. -/
def replace (sought inserted : Text) (text : Text) : Text :=
  go 0 text
where
  /-- The count tells how many characters still belong to the occurrence just replaced. -/
  go : Nat → Text → Text
    | _, [] => []
    | covered + 1, _ :: tail => go covered tail
    | 0, head :: tail =>
        match after? sought (head :: tail), sought with
        | some _, _ :: others => inserted ++ go others.length tail
        | _, _ => head :: go 0 tail

@[simp] theorem after?_append (opening rest : Text) :
    after? opening (opening ++ rest) = some rest := by
  induction opening with
  | nil => rfl
  | cons head tail ih => simpa [after?] using ih

theorem eq_append_of_after? {opening text rest : Text}
    (h : after? opening text = some rest) : text = opening ++ rest := by
  induction opening generalizing text with
  | nil => exact Option.some.inj h
  | cons head tail ih =>
      cases text with
      | nil => simp [after?] at h
      | cons first others =>
          by_cases same : head = first
          · subst same
            simp only [after?, if_true] at h
            rw [ih h]
            rfl
          · simp [after?, same] at h

@[simp] theorem dropEndWhile_nil (test : α → Bool) : dropEndWhile test [] = [] := rfl

theorem dropEndWhile_concat (test : α → Bool) (items : List α) (last : α) :
    dropEndWhile test (items ++ [last]) =
      if test last then dropEndWhile test items else items ++ [last] := by
  simp only [dropEndWhile, List.reverse_append, List.reverse_singleton, List.singleton_append,
    List.dropWhile_cons]
  split <;> simp

theorem splitOn_ne_nil (separator : Char) (text : Text) : splitOn separator text ≠ [] := by
  cases text with
  | nil => simp [splitOn]
  | cons head tail =>
      simp only [splitOn]
      split
      · simp
      · split <;> simp

end Text

end Typeset
