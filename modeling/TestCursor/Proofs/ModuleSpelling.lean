import TestCursor.Proofs.DottedPath

/-!
# Spellings of the path of a module

The path of one source file can be written with either separator, with several of them between two
segments, and with some in front. The dotted path is the same for all of these spellings, and it
has the segments of the path with single dots between them.

1. A gap becomes one dot, whatever it is made of (`dotRuns_gap`), so by induction on the segments
   the text behind the separators in front becomes the segments joined by dots (`dotRuns_body`).
2. The extension is cut off the end, and what stands in front of the first segment is dropped
   (`dottedPath_path`).
3. Segments without dots are read back from the dotted path, so that it tells files apart
   (`dottedPath_tells_segments`).
-/

namespace TestCursor

/-- The text is made of separators, of either kind. -/
def AllSeparators (text : List Char) : Prop := ∀ c ∈ text, c = '/' ∨ c = '\\'

instance (text : List Char) : Decidable (AllSeparators text) :=
  List.decidableBAll (fun c => c = '/' ∨ c = '\\') text

/-- A part of a file path between separators. -/
structure Segment where
  name : String
  not_empty : name ≠ ""
  no_slash : '/' ∉ name.toList
  no_backslash : '\\' ∉ name.toList

/-- What stands between two segments: one separator or more. -/
structure Gap where
  run : List Char
  not_empty : run ≠ []
  separators : AllSeparators run

/-- One way to write the path of a source file: what stands in front of the first segment, that
segment, and each further one with the gap in front of it. -/
structure PathSpelling where
  lead : List Char
  separators : AllSeparators lead
  first : Segment
  more : List (Gap × Segment)

namespace PathSpelling

/-- A further segment as it is written, with the gap in front of it. -/
def further (part : Gap × Segment) : List Char := part.1.run ++ part.2.name.toList

/-- What is written from the first segment on, without the extension. -/
def body (spelling : PathSpelling) : List Char :=
  spelling.first.name.toList ++ spelling.more.flatMap further

def path (spelling : PathSpelling) : String :=
  String.ofList (spelling.lead ++ spelling.body) ++ ".py"

def segments (spelling : PathSpelling) : List String :=
  spelling.first.name :: spelling.more.map fun part => part.2.name

end PathSpelling

section Runs

variable {text : List Char}

theorem isSeparator_iff {c : Char} : isSeparator c = true ↔ c = '/' ∨ c = '\\' := by
  simp [isSeparator]

theorem AllSeparators.isSeparator (h : AllSeparators text) : ∀ c ∈ text, isSeparator c = true :=
  fun c hc => isSeparator_iff.mpr (h c hc)

theorem Segment.not_isSeparator (segment : Segment) :
    ∀ c ∈ segment.name.toList, isSeparator c = false := by
  intro c hc
  rw [Bool.eq_false_iff, ne_eq, isSeparator_iff]
  rintro (rfl | rfl)
  · exact segment.no_slash hc
  · exact segment.no_backslash hc

theorem Segment.toList_ne_nil (segment : Segment) : segment.name.toList ≠ [] := by
  simpa using segment.not_empty

theorem dotRuns_true_append (h : AllSeparators text) (rest : List Char) :
    dotRuns true (text ++ rest) = dotRuns true rest := by
  induction text with
  | nil => rfl
  | cons c text ih =>
    obtain ⟨hc, htext⟩ := List.forall_mem_cons.mp h
    rw [List.cons_append, dotRuns, if_pos (isSeparator_iff.mpr hc)]
    exact ih htext

theorem dotRuns_gap (gap : Gap) (rest : List Char) :
    dotRuns false (gap.run ++ rest) = '.' :: dotRuns true rest := by
  obtain ⟨run, hne, hrun⟩ := gap
  obtain ⟨c, run, rfl⟩ := List.exists_cons_of_ne_nil hne
  obtain ⟨hc, hrun⟩ := List.forall_mem_cons.mp hrun
  rw [List.cons_append, dotRuns, if_pos (isSeparator_iff.mpr hc)]
  exact congrArg ('.' :: ·) (dotRuns_true_append hrun rest)

/-- Segments with gaps between them become the segments with dots between them. The induction is on
the further segments; each but the first one stands behind a gap, and so in a run. -/
theorem dotRuns_segments (first : Segment) (more : List (Gap × Segment)) (inRun : Bool) :
    dotRuns inRun (first.name.toList ++ more.flatMap PathSpelling.further) =
      joinWith ['.'] (first.name.toList :: more.map fun part => part.2.name.toList) := by
  have hfirst := dotRuns_append first.toList_ne_nil first.not_isSeparator
  induction more generalizing first inRun with
  | nil =>
    calc dotRuns inRun (first.name.toList ++ [])
        = first.name.toList ++ dotRuns false [] := hfirst inRun []
      _ = first.name.toList := List.append_nil _
  | cons part more ih =>
    obtain ⟨gap, next⟩ := part
    have hnext := dotRuns_append next.toList_ne_nil next.not_isSeparator
    rw [List.flatMap_cons, hfirst inRun, PathSpelling.further, List.append_assoc, dotRuns_gap,
      ih next true hnext, List.map_cons, joinWith_cons (List.cons_ne_nil _ _)]

end Runs

namespace PathSpelling

variable (spelling : PathSpelling)

theorem dotRuns_body (inRun : Bool) :
    dotRuns inRun spelling.body = joinWith ['.'] (spelling.segments.map String.toList) := by
  rw [body, dotRuns_segments, segments, List.map_cons, List.map_map]
  rfl

theorem dropWhile_lead :
    (spelling.lead ++ spelling.body).dropWhile isSeparator = spelling.body := by
  obtain ⟨c, rest, hfirst⟩ := List.exists_cons_of_ne_nil spelling.first.toList_ne_nil
  have hc : isSeparator c = false :=
    spelling.first.not_isSeparator c (hfirst ▸ List.mem_cons_self)
  rw [List.dropWhile_append_of_pos spelling.separators.isSeparator, body, hfirst, List.cons_append,
    List.dropWhile_cons_of_neg (by simp [hc])]

theorem dottedPath_path : dottedPath spelling.path = ".".intercalate spelling.segments := by
  have hpath : spelling.path.toList = spelling.lead ++ spelling.body ++ sourceExtension := by
    rw [path, String.toList_append, String.toList_ofList]
    rfl
  rw [← String.toList_inj, dottedPath, String.toList_ofList, dottedChars, hpath,
    withoutEnd_append, dropWhile_lead, dotRuns_body, toList_intercalate_eq]
  rfl

end PathSpelling

/-- However the path of a source file is written, its dotted path is its segments with single dots
between them. So two spellings with the same segments have the same dotted path. Segments without
dots are read back from the dotted path, and files with other segments have other dotted paths. -/
theorem dottedPath_tells_segments (spelling other : PathSpelling) :
    dottedPath spelling.path = ".".intercalate spelling.segments ∧
      (spelling.segments = other.segments → dottedPath spelling.path = dottedPath other.path) ∧
      ((∀ segment ∈ spelling.segments, '.' ∉ segment.toList) →
        splitString '.' (dottedPath spelling.path) = spelling.segments ∧
          ((∀ segment ∈ other.segments, '.' ∉ segment.toList) →
            spelling.segments ≠ other.segments →
              dottedPath spelling.path ≠ dottedPath other.path)) := by
  have hread (spelling : PathSpelling)
      (hdots : ∀ segment ∈ spelling.segments, '.' ∉ segment.toList) :
      splitString '.' (dottedPath spelling.path) = spelling.segments := by
    rw [spelling.dottedPath_path]
    exact splitString_intercalate rfl (List.cons_ne_nil _ _) hdots
  refine ⟨spelling.dottedPath_path, fun hsame => ?_, fun hdots => ⟨hread spelling hdots, ?_⟩⟩
  · rw [spelling.dottedPath_path, other.dottedPath_path, hsame]
  · intro hother hsegments hpaths
    have hsplit := congrArg (splitString '.') hpaths
    rw [hread spelling hdots, hread other hother] at hsplit
    exact hsegments hsplit

def shopSegment : Segment := ⟨"shop", by decide, by decide, by decide⟩

def cartSegment : Segment := ⟨"test_cart", by decide, by decide, by decide⟩

/-- The path of a module in a package, in the usual spelling. -/
def plainCart : PathSpelling :=
  ⟨[], by decide, shopSegment, [(⟨['/'], by decide, by decide⟩, cartSegment)]⟩

/-- The same path with a separator in front and one of each kind between the segments. -/
def mixedCart : PathSpelling :=
  ⟨['\\'], by decide, shopSegment, [(⟨['\\', '/'], by decide, by decide⟩, cartSegment)]⟩

/-- The path of a module outside the package. -/
def outerCart : PathSpelling := ⟨[], by decide, cartSegment, []⟩

theorem dottedPath_tells_segments_cart :
    (plainCart.path = "shop/test_cart.py" ∧ dottedPath plainCart.path = "shop.test_cart" ∧
        splitString '.' (dottedPath plainCart.path) = ["shop", "test_cart"]) ∧
      (mixedCart.path = "\\shop\\/test_cart.py" ∧ plainCart.segments = mixedCart.segments ∧
        dottedPath plainCart.path = dottedPath mixedCart.path) ∧
      (outerCart.path = "test_cart.py" ∧ plainCart.segments ≠ outerCart.segments ∧
        dottedPath plainCart.path ≠ dottedPath outerCart.path) := by
  obtain ⟨hdotted, hsame, hread⟩ := dottedPath_tells_segments plainCart mixedCart
  obtain ⟨hsplit, -⟩ := hread (by decide)
  obtain ⟨-, -, hother⟩ := dottedPath_tells_segments plainCart outerCart
  exact ⟨⟨by decide, hdotted, hsplit⟩, ⟨by decide, by decide, hsame (by decide)⟩,
    by decide, by decide, (hother (by decide)).2 (by decide) (by decide)⟩

end TestCursor
