import TestCursor.Proofs.PathsOfPlaces
import TestCursor.TestPath

/-!
# The dotted path of a file

A file below the workspace root has a path of names with separators between them. Its dotted path
has the same names with dots between them, the last one without its extension.

1. The extension is cut off the whole path, and that is off the last name
   (`withoutEnd_joinWith`). It could be cut off the dotted path just as well, unless the last name
   is the extension without its dot (`sourceExtension_suffix_joinWith_iff`).
2. Between names each separator becomes one dot (`dotRuns_joinWith`), so the dotted path is made
   of the names (`dottedPath_intercalate`).
3. A dotted path has no separators left (`isSeparator_of_mem_dottedPath`). So its own dotted path
   is what the extension leaves of it, if it ends with one (`dottedPath_twice`).
-/

namespace TestCursor

/-! ## Cutting an ending off -/

section Endings

variable {ending text last : List Char} {front : List (List Char)} {sep : Char}

theorem withoutEnd_append (ending text : List Char) :
    withoutEnd ending (text ++ ending) = text := by
  have hcut : after? ending.reverse (text ++ ending).reverse = some text.reverse :=
    after?_eq_some_iff.mpr List.reverse_append
  rw [withoutEnd, hcut]
  exact List.reverse_reverse text

theorem withoutEnd_eq_self (h : ¬ending <:+ text) : withoutEnd ending text = text := by
  unfold withoutEnd
  split
  · next rest hcut =>
    refine absurd ⟨rest.reverse, ?_⟩ h
    rw [← List.reverse_reverse text, after?_eq_some_iff.mp hcut, List.reverse_append,
      List.reverse_reverse]
  · rfl

theorem withoutEnd_eq_self_iff (hending : ending ≠ []) :
    withoutEnd ending text = text ↔ ¬ending <:+ text := by
  refine ⟨?_, withoutEnd_eq_self⟩
  rintro hsame ⟨front, rfl⟩
  rw [withoutEnd_append] at hsame
  exact hending (List.append_right_eq_self.mp hsame.symm)

theorem withoutEnd_subset (ending text : List Char) : withoutEnd ending text ⊆ text := by
  by_cases h : ending <:+ text
  · obtain ⟨front, rfl⟩ := h
    rw [withoutEnd_append]
    exact List.subset_append_left _ _
  · rw [withoutEnd_eq_self h]
    exact List.Subset.refl _

/-- What stands at the end of the last piece stands at the end of the joined text. -/
theorem joinWith_concat_append (front : List (List Char)) (last more : List Char) :
    joinWith [sep] (front ++ [last ++ more]) = joinWith [sep] (front ++ [last]) ++ more := by
  by_cases hfront : front = []
  · subst hfront
    rfl
  · have hjoin (piece : List Char) : joinWith [sep] (front ++ [piece]) =
        joinWith [sep] front ++ sep :: piece :=
      joinWith_append_of_ne_nil hfront (List.cons_ne_nil piece [])
    rw [hjoin, hjoin, List.append_assoc, List.cons_append]

/-- An ending without the separator is cut off the last piece. -/
theorem withoutEnd_joinWith (h : sep ∉ ending) :
    withoutEnd ending (joinWith [sep] (front ++ [last])) =
      joinWith [sep] (front ++ [withoutEnd ending last]) := by
  by_cases hlast : ending <:+ last
  · obtain ⟨stem, rfl⟩ := hlast
    rw [joinWith_concat_append, withoutEnd_append, withoutEnd_append]
  · rw [withoutEnd_eq_self hlast, withoutEnd_eq_self (mt (suffix_joinWith_concat_iff h).mp hlast)]

/-- Behind the dot that joins it, the last name can be what is left of the extension. -/
theorem sourceExtension_suffix_joinWith_iff (hfront : front ≠ []) :
    sourceExtension <:+ joinWith ['.'] (front ++ [last]) ↔
      sourceExtension <:+ last ∨ last = ['p', 'y'] := by
  have hjoin : joinWith ['.'] (front ++ [last]) = joinWith ['.'] front ++ '.' :: last :=
    joinWith_append_of_ne_nil hfront (List.cons_ne_nil last [])
  have hlast : '.' :: last <:+ joinWith ['.'] (front ++ [last]) := by
    rw [hjoin]
    exact List.suffix_append _ _
  constructor
  · intro hextension
    rcases List.suffix_or_suffix_of_suffix hextension hlast with hshort | hlong
    · rcases List.suffix_cons_iff.mp hshort with hsame | hshort
      · exact .inr (List.cons.inj hsame).2.symm
      · exact .inl hshort
    · rcases List.suffix_cons_iff.mp hlong with hsame | hlong
      · exact .inr (List.cons.inj hsame).2
      · exact absurd (hlong.subset List.mem_cons_self) (by decide)
  · rintro (hextension | rfl)
    · exact hextension.trans ((List.suffix_cons '.' last).trans hlast)
    · exact hlast

end Endings

/-! ## Names without their extension -/

section Extension

variable {text stem last : String} {front : List String}

/-- A text and what is left of it without the extension of a source file, cut off once. -/
inductive CutsExtension : String → String → Prop
  | cut (stem : String) : CutsExtension (stem ++ ".py") stem
  | kept {text : String} (h : ∀ stem, text ≠ stem ++ ".py") : CutsExtension text text

theorem toList_append_extension (stem : String) :
    (stem ++ ".py").toList = stem.toList ++ sourceExtension := String.toList_append

theorem cutsExtension_iff :
    CutsExtension text stem ↔ stem.toList = withoutEnd sourceExtension text.toList := by
  constructor
  · rintro (_ | h)
    · rw [toList_append_extension, withoutEnd_append]
    · refine (withoutEnd_eq_self fun ⟨front, hfront⟩ => h (String.ofList front) ?_).symm
      rw [← String.toList_inj, toList_append_extension, String.toList_ofList, hfront]
  · intro h
    by_cases hsuffix : sourceExtension <:+ text.toList
    · obtain ⟨front, hfront⟩ := hsuffix
      rw [← hfront, withoutEnd_append] at h
      obtain rfl : text = stem ++ ".py" := by
        rw [← String.toList_inj, toList_append_extension, h, hfront]
      exact .cut stem
    · rw [withoutEnd_eq_self hsuffix] at h
      obtain rfl := String.toList_inj.mp h
      exact .kept fun front hfront =>
        hsuffix ⟨front.toList, by rw [hfront, toList_append_extension]⟩

theorem CutsExtension.eq_self_iff (h : CutsExtension text stem) :
    stem = text ↔ ¬∃ front, text = front ++ ".py" := by
  cases h with
  | cut =>
    have hshorter : stem ≠ stem ++ ".py" := fun hsame => by
      simpa using congrArg String.length hsame
    exact iff_of_false hshorter (not_not.mpr ⟨stem, rfl⟩)
  | kept h =>
    refine iff_of_true rfl ?_
    rintro ⟨front, hfront⟩
    exact h front hfront

theorem CutsExtension.eq_of_append {front : String} (h : CutsExtension (front ++ ".py") stem) :
    stem = front := by
  rw [cutsExtension_iff, toList_append_extension, withoutEnd_append] at h
  exact String.toList_inj.mp h

theorem exists_cutsExtension (text : String) : ∃ stem, CutsExtension text stem :=
  ⟨String.ofList (withoutEnd sourceExtension text.toList),
    cutsExtension_iff.mpr String.toList_ofList⟩

/-- The extension of the last name is that of the names joined by dots, unless the last of several
names is the extension without its dot. -/
theorem cutsExtension_intercalate_iff (hstem : CutsExtension last stem) :
    CutsExtension (".".intercalate (front ++ [last])) (".".intercalate (front ++ [stem])) ↔
      ¬(last = "py" ∧ front ≠ []) := by
  rw [cutsExtension_iff] at hstem ⊢
  have hdot : ".".toList = ['.'] := rfl
  simp only [toList_intercalate_eq, hdot, List.map_append, List.map_singleton, hstem]
  by_cases hfront : front = []
  · subst hfront
    simp [joinWith]
  · have hpieces : front.map String.toList ≠ [] := by simpa using hfront
    have hname : last = "py" ↔ last.toList = ['p', 'y'] := String.toList_inj.symm
    by_cases hsuffix : sourceExtension <:+ last.toList
    · obtain ⟨name, hlast⟩ := hsuffix
      rw [← hlast, withoutEnd_append, joinWith_concat_append, withoutEnd_append]
      refine iff_of_true rfl ?_
      rintro ⟨hpy, -⟩
      have hlength := congrArg List.length (hlast.trans (hname.mp hpy))
      simp [sourceExtension] at hlength
    · rw [withoutEnd_eq_self hsuffix, eq_comm, withoutEnd_eq_self_iff (by decide),
        sourceExtension_suffix_joinWith_iff hpieces, hname]
      simp [hsuffix, hfront]

end Extension

/-! ## Names with dots between them -/

section Dots

variable {piece last : List Char} {front : List (List Char)}

theorem dotRuns_append (hne : piece ≠ []) (h : ∀ c ∈ piece, isSeparator c = false) (inRun : Bool)
    (rest : List Char) : dotRuns inRun (piece ++ rest) = piece ++ dotRuns false rest := by
  induction piece generalizing inRun with
  | nil => exact absurd rfl hne
  | cons c piece ih =>
    obtain ⟨hc, hpiece⟩ := List.forall_mem_cons.mp h
    rw [List.cons_append, dotRuns, if_neg (by simp [hc])]
    by_cases hnil : piece = []
    · subst hnil
      rfl
    · rw [ih hnil hpiece, List.cons_append]

theorem dotRuns_eq_self (h : ∀ c ∈ piece, isSeparator c = false) (inRun : Bool) :
    dotRuns inRun piece = piece := by
  by_cases hpiece : piece = []
  · subst hpiece
    rfl
  · have hrun := dotRuns_append hpiece h inRun []
    rwa [List.append_nil, dotRuns, List.append_nil] at hrun

/-- Between pieces that name something each separator is one dot. -/
theorem dotRuns_joinWith (hne : ∀ piece ∈ front, piece ≠ [])
    (h : ∀ piece ∈ front ++ [last], ∀ c ∈ piece, isSeparator c = false) (inRun : Bool) :
    dotRuns inRun (joinWith ['/'] (front ++ [last])) = joinWith ['.'] (front ++ [last]) := by
  induction front generalizing inRun with
  | nil => exact dotRuns_eq_self (h last List.mem_cons_self) inRun
  | cons piece front ih =>
    obtain ⟨hpiece, hne⟩ := List.forall_mem_cons.mp hne
    rw [List.cons_append, List.forall_mem_cons] at h
    have hslash (rest : List Char) : dotRuns false ('/' :: rest) = '.' :: dotRuns true rest := rfl
    rw [List.cons_append, joinWith_cons (by simp), joinWith_cons (by simp),
      dotRuns_append hpiece h.1, hslash, ih hne h.2]

theorem dropWhile_isSeparator_joinWith (hne : ∀ piece ∈ front, piece ≠ [])
    (h : ∀ piece ∈ front ++ [last], ∀ c ∈ piece, isSeparator c = false) :
    (joinWith ['/'] (front ++ [last])).dropWhile isSeparator =
      joinWith ['/'] (front ++ [last]) := by
  cases front with
  | nil =>
    cases last with
    | nil => rfl
    | cons c last =>
      have hc := h (c :: last) List.mem_cons_self c List.mem_cons_self
      exact List.dropWhile_cons_of_neg (by simp [hc])
  | cons piece front =>
    obtain ⟨c, piece, rfl⟩ := List.exists_cons_of_ne_nil (hne piece List.mem_cons_self)
    have hc := h (c :: piece) List.mem_cons_self c List.mem_cons_self
    rw [List.cons_append, joinWith_cons (by simp), List.cons_append,
      List.dropWhile_cons_of_neg (by simp [hc])]

end Dots

section DottedPath

variable {last stem : String} {front : List String}

/-- The dotted path of a file: its names with dots between them, the last one without its
extension. -/
theorem dottedPath_intercalate (hnames : AreEntryNames (front ++ [last]))
    (hplain : ∀ name ∈ front ++ [last], '\\' ∉ name.toList) (hstem : CutsExtension last stem) :
    dottedPath ("/".intercalate (front ++ [last])) = ".".intercalate (front ++ [stem]) := by
  have hseparator : ∀ name ∈ front ++ [last], ∀ c ∈ name.toList, isSeparator c = false := by
    intro name hname c hc
    have hslash : c ≠ '/' := fun heq => (hnames name hname).no_slash (heq ▸ hc)
    have hback : c ≠ '\\' := fun heq => hplain name hname (heq ▸ hc)
    simp [isSeparator, hslash, hback]
  have hne : ∀ piece ∈ front.map String.toList, piece ≠ [] :=
    List.forall_mem_map.mpr fun name hname => by
      simpa using (hnames name (List.mem_append_left _ hname)).not_empty
  have hpieces : ∀ piece ∈ front.map String.toList ++ [stem.toList],
      ∀ c ∈ piece, isSeparator c = false := by
    refine List.forall_mem_append.mpr ⟨List.forall_mem_map.mpr fun name hname =>
      hseparator name (List.mem_append_left _ hname), List.forall_mem_singleton.mpr fun c hc => ?_⟩
    rw [cutsExtension_iff.mp hstem] at hc
    exact hseparator last (by simp) c (withoutEnd_subset _ _ hc)
  have hslash : "/".toList = ['/'] := rfl
  rw [← String.toList_inj, dottedPath, String.toList_ofList, dottedChars, toList_intercalate_eq,
    toList_intercalate_eq, hslash, List.map_append, List.map_singleton,
    withoutEnd_joinWith (by decide), ← cutsExtension_iff.mp hstem,
    dropWhile_isSeparator_joinWith hne hpieces, dotRuns_joinWith hne hpieces, List.map_append]
  rfl

end DottedPath

/-! ## The dotted path of a dotted path -/

section Again

variable {text : List Char} {dotted : String}

theorem isSeparator_of_mem_dotRuns {c : Char} {inRun : Bool} (h : c ∈ dotRuns inRun text) :
    isSeparator c = false := by
  induction text generalizing inRun with
  | nil => cases h
  | cons d text ih =>
    rw [dotRuns] at h
    split at h
    · split at h
      · exact ih h
      · rcases List.mem_cons.mp h with rfl | h
        · rfl
        · exact ih h
    · next hd =>
      rcases List.mem_cons.mp h with rfl | h
      · simpa using hd
      · exact ih h

theorem isSeparator_of_mem_dottedPath {path : String} {c : Char}
    (h : c ∈ (dottedPath path).toList) : isSeparator c = false := by
  rw [dottedPath, String.toList_ofList] at h
  exact isSeparator_of_mem_dotRuns h

theorem cutsExtension_dottedPath (h : ∀ c ∈ dotted.toList, isSeparator c = false) :
    CutsExtension dotted (dottedPath dotted) := by
  have hstem : ∀ c ∈ withoutEnd sourceExtension dotted.toList, isSeparator c = false :=
    fun c hc => h c (withoutEnd_subset _ _ hc)
  have hlead := List.dropWhile_eq_self_iff.mpr fun hlength =>
    Bool.eq_false_iff.mp (hstem _ (List.getElem_mem hlength))
  rw [cutsExtension_iff, dottedPath, String.toList_ofList, dottedChars, hlead,
    dotRuns_eq_self hstem]

/-- A dotted path has no separators. It is its own dotted path unless it ends with the extension of
a source file, and then that extension is dropped once. -/
theorem dottedPath_twice (path : String) :
    ('/' ∉ (dottedPath path).toList ∧ '\\' ∉ (dottedPath path).toList) ∧
      (dottedPath (dottedPath path) = dottedPath path ↔
        ¬∃ stem, dottedPath path = stem ++ ".py") ∧
      ∀ stem, dottedPath path = stem ++ ".py" → dottedPath (dottedPath path) = stem := by
  have hseparator : ∀ c ∈ (dottedPath path).toList, isSeparator c = false :=
    fun c => isSeparator_of_mem_dottedPath
  have hcut := cutsExtension_dottedPath hseparator
  refine ⟨⟨fun hslash => ?_, fun hback => ?_⟩, hcut.eq_self_iff, fun stem hstem => ?_⟩
  · exact absurd (hseparator _ hslash) (by decide)
  · exact absurd (hseparator _ hback) (by decide)
  · rw [hstem] at hcut ⊢
    exact hcut.eq_of_append

/-- The dotted path of a file `py` ends like the name of a source file. -/
theorem dottedPath_twice_py :
    dottedPath "shop/py" = "shop" ++ ".py" ∧ dottedPath (dottedPath "shop/py") = "shop" ∧
      dottedPath (dottedPath "shop/py") ≠ dottedPath "shop/py" := by
  have hpy : dottedPath "shop/py" = "shop" ++ ".py" := by decide
  obtain ⟨-, hstable, hcut⟩ := dottedPath_twice "shop/py"
  exact ⟨hpy, hcut "shop" hpy, mt hstable.mp (not_not.mpr ⟨"shop", hpy⟩)⟩

end Again

end TestCursor
