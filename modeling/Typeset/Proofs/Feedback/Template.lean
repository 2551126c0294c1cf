import Typeset.Feedback.Link
import Typeset.Proofs.Path.FileUrl
import Typeset.Proofs.Text.Search

/-!
Templates with places that are filled.  To fill the places one after the other over the growing text
is to fill them all in one pass, since no place can begin in what was filled in, and none that begins
before it can go on into it.
-/

namespace Typeset

namespace Text

/-- One pass over a text from left to right: each place is left out and its value is written, anything
else is copied, and what is written is not read. -/
inductive Filled (values : List (Text × Text)) : Text → Text → Prop
  | done : Filled values [] []
  | fill {place value rest written : Text} : (place, value) ∈ values → Filled values rest written →
      Filled values (place ++ rest) (value ++ written)
  | copy {c : Char} {rest written : Text} :
      (∀ entry ∈ values, ¬entry.1 <+: c :: rest) → Filled values rest written →
      Filled values (c :: rest) (c :: written)

/-- A brace opens a place, and no other one opens in it. -/
def IsPlace (place : Text) : Prop :=
  ∃ word, place = '{' :: word ∧ '{' ∉ word

variable {values : List (Text × Text)} {place value text written rest word : Text} {c : Char}

theorem IsPlace.length_lt (isPlace : IsPlace place) (rest : Text) :
    rest.length < (place ++ rest).length := by
  obtain ⟨word, rfl, -⟩ := isPlace
  simp only [List.length_append, List.length_cons]
  omega

theorem go_covered (covered rest : Text) :
    replace.go place value covered.length (covered ++ rest) = replace place value rest := by
  induction covered with
  | nil => rfl
  | cons head covered ih => simpa [replace.go] using ih

theorem replace_place (isPlace : IsPlace place) (rest : Text) :
    replace place value (place ++ rest) = value ++ replace place value rest := by
  obtain ⟨word, rfl, -⟩ := isPlace
  have here : after? ('{' :: word) ('{' :: (word ++ rest)) = some rest :=
    after?_append ('{' :: word) rest
  calc
    replace ('{' :: word) value ('{' :: word ++ rest) =
        value ++ replace.go ('{' :: word) value word.length (word ++ rest) := by
      simp only [replace, List.cons_append, replace.go, here]
    _ = value ++ replace ('{' :: word) value rest := by rw [go_covered]

theorem replace_cons (elsewhere : ¬place <+: c :: rest) :
    replace place value (c :: rest) = c :: replace place value rest := by
  have none : after? place (c :: rest) = none := by
    rwa [← Option.not_isSome_iff_eq_none, isSome_after?_iff]
  simp only [replace, replace.go, none]

theorem replace_append (isPlace : IsPlace place) (unbraced : '{' ∉ text) (rest : Text) :
    replace place value (text ++ rest) = text ++ replace place value rest := by
  obtain ⟨word, rfl, -⟩ := isPlace
  induction text with
  | nil => rfl
  | cons c text ih =>
      rw [List.mem_cons, not_or] at unbraced
      have elsewhere : ¬ '{' :: word <+: c :: (text ++ rest) := by
        rw [List.cons_prefix_cons]
        exact fun starts => unbraced.1 starts.1
      rw [List.cons_append, replace_cons elsewhere, ih unbraced.2, List.cons_append]

/-- Of places none of which is the beginning of another, one pass gives one text. -/
theorem Filled.unique {other : Text} (filled : Filled values text written)
    (filledToo : Filled values text other) (places : ∀ entry ∈ values, IsPlace entry.1)
    (distinct : ∀ entry ∈ values, ∀ another ∈ values, entry.1 <+: another.1 → entry = another) :
    written = other := by
  induction filled generalizing other with
  | done =>
      generalize same : [] = text at filledToo
      cases filledToo with
      | done => rfl
      | fill member _ =>
          obtain ⟨word, rfl, -⟩ : IsPlace _ := places _ member
          cases same
      | copy _ _ => cases same
  | @fill place value rest written member _ ih =>
      generalize same : place ++ rest = text at filledToo
      cases filledToo with
      | done =>
          obtain ⟨word, rfl, -⟩ : IsPlace _ := places _ member
          cases same
      | @fill otherPlace otherValue otherRest _ otherMember filledToo =>
          have sameEntry : (place, value) = (otherPlace, otherValue) := by
            rcases List.prefix_or_prefix_of_prefix ⟨rest, same⟩ ⟨otherRest, rfl⟩ with before | before
            · exact distinct _ member _ otherMember before
            · exact (distinct _ otherMember _ member before).symm
          obtain ⟨rfl, rfl⟩ := Prod.mk.inj sameEntry
          obtain rfl := List.append_cancel_left same
          rw [ih filledToo]
      | copy elsewhere _ => exact absurd ⟨rest, same⟩ (elsewhere _ member)
  | @copy c rest written elsewhere _ ih =>
      generalize same : c :: rest = text at filledToo
      cases filledToo with
      | done => cases same
      | fill member _ => exact absurd ⟨_, same.symm⟩ (elsewhere _ member)
      | copy _ filledToo =>
          obtain ⟨rfl, rfl⟩ := List.cons.inj same
          rw [ih filledToo]

theorem filled_nothing (text : Text) : Filled [] text text := by
  induction text with
  | nil => exact .done
  | cons c text ih => exact .copy (fun _ member => absurd member List.not_mem_nil) ih

theorem Filled.of_append (places : ∀ entry ∈ values, IsPlace entry.1) (unbraced : '{' ∉ word)
    (filled : Filled values (word ++ rest) written) :
    ∃ behind, written = word ++ behind ∧ Filled values rest behind := by
  induction word generalizing written with
  | nil => exact ⟨written, rfl, filled⟩
  | cons c word ih =>
      rw [List.mem_cons, not_or] at unbraced
      generalize same : c :: word ++ rest = text at filled
      cases filled with
      | done => cases same
      | fill member _ =>
          obtain ⟨name, rfl, -⟩ : IsPlace _ := places _ member
          exact absurd (List.cons.inj same).1.symm unbraced.1
      | copy _ inner =>
          obtain ⟨rfl, rfl⟩ := List.cons.inj same
          obtain ⟨behind, rfl, filled⟩ := ih unbraced.2 inner
          exact ⟨behind, rfl, filled⟩

/-- A word that no value begins inside of is copied wherever it is found. -/
theorem Filled.starts_with (filled : Filled values text written)
    (apart : ∀ entry ∈ values, ∃ first, entry.2.head? = some first ∧ first ∉ word)
    (starts : word <+: written) : word <+: text := by
  induction filled generalizing word with
  | done => exact starts
  | fill member _ _ =>
      obtain ⟨first, isFirst, outside⟩ := apart _ member
      obtain ⟨others, same⟩ := List.head?_eq_some_iff.mp isFirst
      obtain rfl : _ = first :: others := same
      cases word with
      | nil => exact List.nil_prefix
      | cons c word =>
          rw [List.cons_append, List.cons_prefix_cons] at starts
          exact absurd (by simp [starts.1]) outside
  | copy _ _ ih =>
      cases word with
      | nil => exact List.nil_prefix
      | cons c word =>
          rw [List.cons_prefix_cons] at starts ⊢
          refine ⟨starts.1, ih (fun entry member => ?_) starts.2⟩
          obtain ⟨first, isFirst, outside⟩ := apart entry member
          exact ⟨first, isFirst, fun inside => outside (List.mem_cons_of_mem c inside)⟩

theorem Filled.replace (filled : Filled values text written)
    (places : ∀ entry ∈ values, IsPlace entry.1) (unbraced : ∀ entry ∈ values, '{' ∉ entry.2)
    (isPlace : IsPlace place)
    (apart : ∀ entry ∈ values, ∃ first, entry.2.head? = some first ∧ first ∉ place) (value : Text) :
    Filled (values ++ [(place, value)]) text (replace place value written) := by
  -- Where the place is found a whole word is passed over at once, so the induction is on the length.
  induction count : text.length using Nat.strongRecOn generalizing text written with
  | ind count ih =>
      subst count
      have onward {rest behind : Text} (shorter : rest.length < text.length)
          (filled : Filled values rest behind) :
          Filled (values ++ [(place, value)]) rest (Text.replace place value behind) :=
        ih rest.length shorter filled rfl
      cases filled with
      | done =>
          obtain ⟨word, rfl, -⟩ := isPlace
          exact .done
      | fill member filled =>
          rw [replace_append isPlace (unbraced _ member)]
          exact .fill (List.mem_append_left _ member)
            (onward (IsPlace.length_lt (places _ member) _) filled)
      | @copy c rest written elsewhere filled =>
          by_cases found : place <+: c :: rest
          · have shortens := isPlace.length_lt
            have replaced := @replace_place place value isPlace
            obtain ⟨word, rfl, unbracedWord⟩ := isPlace
            obtain ⟨rfl, tail, rfl⟩ := List.cons_prefix_cons.mp found
            obtain ⟨behind, rfl, filledBehind⟩ := filled.of_append places unbracedWord
            have last := List.mem_append_right values (List.mem_singleton_self ('{' :: word, value))
            exact replaced behind ▸ .fill last (onward (shortens tail) filledBehind)
          · have absent : ¬place <+: c :: written := fun starts =>
              found ((Filled.copy elsewhere filled).starts_with apart starts)
            rw [replace_cons absent]
            refine .copy (fun entry member => ?_) (onward (by simp) filled)
            rcases List.mem_append.mp member with earlier | last
            · exact elsewhere entry earlier
            · rwa [List.mem_singleton.mp last]

end Text

namespace Link

open Text (Filled IsPlace)

variable {file : Path} {url : Text}

theorem isPlace_urlPlace : IsPlace urlPlace :=
  ⟨['u', 'r', 'l', '}'], by decide, by decide⟩

theorem isPlace_pathPlace : IsPlace pathPlace :=
  ⟨['p', 'a', 't', 'h', '}'], by decide, by decide⟩

theorem isPlace_linePlace : IsPlace linePlace :=
  ⟨['l', 'i', 'n', 'e', '}'], by decide, by decide⟩

def values (url : Text) (file : Path) (line? : Option UInt32) : List (Text × Text) :=
  [(urlPlace, url), (pathPlace, file), (linePlace, lineText line?)]

def filledInTurn (url : Text) (file : Path) (line? : Option UInt32) (template : Text) : Text :=
  Text.replace linePlace (lineText line?)
    (Text.replace pathPlace file (Text.replace urlPlace url template))

theorem isPlace_of_mem_values {line? : Option UInt32} :
    ∀ entry ∈ values url file line?, IsPlace entry.1 := by
  simp [values, isPlace_urlPlace, isPlace_pathPlace, isPlace_linePlace]

theorem distinct_values {line? : Option UInt32} :
    ∀ entry ∈ values url file line?, ∀ another ∈ values url file line?,
      entry.1 <+: another.1 → entry = another := by
  have apart : (¬urlPlace <+: pathPlace ∧ ¬pathPlace <+: urlPlace) ∧
      (¬urlPlace <+: linePlace ∧ ¬linePlace <+: urlPlace) ∧
      (¬pathPlace <+: linePlace ∧ ¬linePlace <+: pathPlace) := by decide
  simp [values, apart]

theorem filled_filledInTurn (scheme : url.head? = some 'f') (unbracedUrl : '{' ∉ url)
    (rooted : Path.isAbsolute file = true) (unbraced : '{' ∉ file) (template : Text)
    (line? : Option UInt32) :
    Filled (values url file line?) template (filledInTurn url file line? template) := by
  have root : file.head? = some '/' := by
    unfold Path.isAbsolute at rooted
    split at rooted
    · rfl
    · cases rooted
  have afterUrl := (Text.filled_nothing template).replace (by simp) (by simp) isPlace_urlPlace
    (by simp) url
  have afterPath := afterUrl.replace (by simpa using isPlace_urlPlace) (by simpa using unbracedUrl)
    isPlace_pathPlace (by simpa [scheme] using by decide) file
  exact afterPath.replace (by simpa using ⟨isPlace_urlPlace, isPlace_pathPlace⟩)
    (by simpa using ⟨unbracedUrl, unbraced⟩) isPlace_linePlace
    (by simpa [scheme, root] using by decide) (lineText line?)

theorem filled_iff (scheme : ("file:///" : Text) <+: url) (unbracedUrl : '{' ∉ url)
    (rooted : Path.isAbsolute file = true) (unbraced : '{' ∉ file) (template : Text)
    (line? : Option UInt32) (text : Text) :
    Filled (values url file line?) template text ↔ text = filledInTurn url file line? template := by
  have first : url.head? = some 'f' := by
    obtain ⟨rest, rfl⟩ := scheme
    rfl
  have inTurn := filled_filledInTurn first unbracedUrl rooted unbraced template line?
  constructor
  · intro filled
    exact filled.unique inTurn isPlace_of_mem_values distinct_values
  · rintro rfl
    exact inTurn

/-- A link leads where its template says, with each place filled and everything else copied; what is
filled in is not looked at again.  Of the URL it only matters that it begins as that of a file and has
no brace that opens a place. -/
theorem template_is_filled_in_one_pass (rooted : Path.isAbsolute file = true)
    (unbraced : '{' ∉ file) :
    (∀ url : Text, ("file:///" : Text) <+: url → '{' ∉ url →
        ∀ (template : Text) (line? : Option UInt32) (text : Text),
          Filled (values url file line?) template text ↔
            text = filledInTurn url file line? template) ∧
      (("file:///" : Text) <+: Path.fileUrl file ∧ '{' ∉ Path.fileUrl file) ∧
      ∀ (template : Text) (line? : Option UInt32) (text : Text),
        Filled (values (Path.fileUrl file) file line?) template text ↔
          text = target template file line? := by
  have starts := Path.starts_fileUrl rooted
  have unbracedUrl := Path.brace_not_mem_fileUrl rooted
  refine ⟨fun url scheme noBrace => ?_, ⟨starts, unbracedUrl⟩, ?_⟩
  · exact filled_iff scheme noBrace rooted unbraced
  · exact filled_iff starts unbracedUrl rooted unbraced

/-- The brace before a place and the letters behind it make up no other place. -/
theorem place_around_url_is_copied :
    Path.isAbsolute "/a" = true ∧ '{' ∉ ("/a" : Text) ∧
      Filled (values (Path.fileUrl "/a") "/a" (some 12)) "\x7b\x7burl\x7dpath\x7d\x7bline\x7d"
        "\x7bfile:///apath\x7d12" :=
  ⟨rfl, by decide,
    ((template_is_filled_in_one_pass rfl (by decide)).2.2 "\x7b\x7burl\x7dpath\x7d\x7bline\x7d"
      (some 12) "\x7bfile:///apath\x7d12").mpr (by decide +kernel)⟩

end Link

end Typeset
