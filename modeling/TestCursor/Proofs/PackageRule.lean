import TestCursor.Proofs.FirstOccurrence
import TestCursor.Proofs.Splitting

/-!
# The segment at which a package is found

A root rule looks for the name of a package, with a dot behind it, anywhere in the text of a module
path. So it finds the name wherever a segment ends with it, and not only where a segment is the
name.

1. A segment with its dot holds the name with its dot exactly when the segment ends with the name
   (`afterFirst?_segment`), and the last segment of a path never holds it
   (`afterFirst?_eq_none_of_not_mem`).
2. By induction on the segments, what is left of a path are the segments behind the first one that
   ends with the name (`afterFirst?_joinWith`), or all of them when none does
   (`afterFirst?_joinWith_eq_none`).
3. The rule goes by whole segments exactly when the first one that ends with the name is the name
   (`rootRule_drops_through_segment`). A longer one is cut off as well
   (`rootRule_splits_longer_segment`).
-/

namespace TestCursor

/-! ## The first occurrence in a joined text -/

section Occurrence

variable {name segment rest : List Char} {segments before after : List (List Char)}

/-- A key that ends with a dot does not occur in a text without dots. -/
theorem afterFirst?_eq_none_of_not_mem {text : List Char} (h : '.' ∉ text) :
    afterFirst? (name ++ ['.']) text = none :=
  afterFirst?_eq_none_iff.mpr fun hoccurs => h (hoccurs.subset (by simp))

/-- In front of the first dot of a text stands the name and nothing else. -/
theorem after?_segment (hname : '.' ∉ name) (hsegment : '.' ∉ segment) :
    after? (name ++ ['.']) (segment ++ '.' :: rest) =
      if name = segment then some rest else none := by
  induction name generalizing segment with
  | nil =>
    cases segment with
    | nil => rfl
    | cons c segment => exact if_neg (Ne.symm (mt (· ▸ List.mem_cons_self) hsegment)) |>.trans rfl
  | cons d name ih =>
    rw [List.mem_cons, not_or] at hname
    cases segment with
    | nil => exact if_neg (Ne.symm hname.1)
    | cons c segment =>
      rw [List.mem_cons, not_or] at hsegment
      rw [List.cons_append, List.cons_append, after?, ih hname.2 hsegment.2]
      by_cases hc : d = c <;> simp [hc]

/-- A segment with the dot behind it holds the key exactly when it ends with the name. -/
theorem afterFirst?_segment (hempty : name ≠ []) (hname : '.' ∉ name) (hsegment : '.' ∉ segment) :
    afterFirst? (name ++ ['.']) (segment ++ '.' :: rest) =
      if name <:+ segment then some rest else afterFirst? (name ++ ['.']) rest := by
  induction segment with
  | nil =>
    have hkey : after? (name ++ ['.']) ('.' :: rest) = none :=
      (after?_segment hname List.not_mem_nil).trans (if_neg hempty)
    rw [List.nil_append, afterFirst?, hkey, if_neg (mt List.suffix_nil.mp hempty)]
  | cons c segment ih =>
    have hkey := @after?_segment name (c :: segment) rest hname hsegment
    rw [List.cons_append] at hkey ⊢
    rw [afterFirst?, hkey, ih fun hdot => hsegment (List.mem_cons_of_mem _ hdot)]
    simp only [List.suffix_cons_iff]
    by_cases hsame : name = c :: segment
    · simp only [hsame, if_true, true_or]
    · simp only [hsame, if_false, false_or]

/-- In a path the key is found first behind the first segment that ends with the name. -/
theorem afterFirst?_joinWith (hempty : name ≠ []) (hname : '.' ∉ name) (hafter : after ≠ [])
    (hdots : ∀ other ∈ before ++ [segment], '.' ∉ other)
    (hbefore : ∀ other ∈ before, ¬name <:+ other) (hends : name <:+ segment) :
    afterFirst? (name ++ ['.']) (joinWith ['.'] (before ++ segment :: after)) =
      some (joinWith ['.'] after) := by
  induction before with
  | nil =>
    rw [List.nil_append, joinWith_cons hafter,
      afterFirst?_segment hempty hname (hdots segment (by simp)), if_pos hends]
  | cons first before ih =>
    obtain ⟨hfirst, hbefore⟩ := List.forall_mem_cons.mp hbefore
    rw [List.cons_append, List.forall_mem_cons] at hdots
    rw [List.cons_append, joinWith_cons (by simp), afterFirst?_segment hempty hname hdots.1,
      if_neg hfirst, ih hdots.2 hbefore]

/-- Without a segment that ends with the name, the last one aside, the key does not occur. -/
theorem afterFirst?_joinWith_eq_none (hempty : name ≠ []) (hname : '.' ∉ name)
    (hdots : ∀ other ∈ segments, '.' ∉ other)
    (hends : ∀ other ∈ segments.dropLast, ¬name <:+ other) :
    afterFirst? (name ++ ['.']) (joinWith ['.'] segments) = none := by
  induction segments with
  | nil => exact afterFirst?_eq_none_of_not_mem List.not_mem_nil
  | cons first segments ih =>
    obtain ⟨hfirst, hdots⟩ := List.forall_mem_cons.mp hdots
    by_cases hnil : segments = []
    · subst hnil
      exact afterFirst?_eq_none_of_not_mem hfirst
    · rw [List.dropLast_cons_of_ne_nil hnil, List.forall_mem_cons] at hends
      rw [joinWith_cons hnil, afterFirst?_segment hempty hname hfirst, if_neg hends.1,
        ih hdots hends.2]

end Occurrence

/-! ## Segments that end with a name -/

section Segments

variable {segments before after others : List String} {segment name : String}

/-- A segment ends with a name: it is the name, or has more in front of it. -/
def EndsWithName (segment name : String) : Prop := name.toList <:+ segment.toList

instance (segment name : String) : Decidable (EndsWithName segment name) :=
  inferInstanceAs (Decidable (name.toList <:+ segment.toList))

/-- Where the segments of a path are cut: at the first one that ends with a name, the last one
aside. -/
structure FirstEnding (name : String) (segments before : List String) (segment : String)
    (after : List String) : Prop where
  split : segments = before ++ segment :: after
  more : after ≠ []
  ends : EndsWithName segment name
  earlier : ∀ other ∈ before, ¬EndsWithName other name

theorem exists_firstEnding (hmore : after ≠ []) (hmem : segment ∈ before)
    (hends : EndsWithName segment name) :
    ∃ front first rest, FirstEnding name (before ++ after) front first (rest ++ after) ∧
      first ∈ before := by
  have hfind : (before.find? fun other => EndsWithName other name).isSome :=
    List.find?_isSome.mpr ⟨segment, hmem, decide_eq_true hends⟩
  obtain ⟨first, hfirst⟩ := Option.isSome_iff_exists.mp hfind
  obtain ⟨hname, front, rest, rfl, hfront⟩ := List.find?_eq_some_iff_append.mp hfirst
  exact ⟨front, first, rest, {
    split := by simp
    more := by simp [hmore]
    ends := of_decide_eq_true hname
    earlier := fun other hother => by simpa using hfront other hother }, by simp⟩

theorem intercalate_dot_inj (hsegments : segments ≠ []) (hothers : others ≠ [])
    (hdots : ∀ segment ∈ segments, '.' ∉ segment.toList)
    (hdots' : ∀ segment ∈ others, '.' ∉ segment.toList)
    (h : ".".intercalate segments = ".".intercalate others) : segments = others := by
  have hsplit := congrArg (splitString '.') h
  rwa [splitString_intercalate rfl hsegments hdots, splitString_intercalate rfl hothers hdots']
    at hsplit

theorem FirstEnding.after_dotFree (hfirst : FirstEnding name segments before segment after)
    (hdots : ∀ other ∈ segments, '.' ∉ other.toList) : ∀ other ∈ after, '.' ∉ other.toList :=
  fun other hother => hdots other (by simp [hfirst.split, hother])

end Segments

/-! ## What the rule leaves -/

section Rule

variable {segments before after : List String} {segment name spelling path : String}

/-- The rule by whole segments: what is left of a path are the segments behind the first one that
is the name, the last one aside, or all of them when none is. -/
structure DropsNamedSegment (spelling name : String) (segments : List String) : Prop where
  /-- A segment that is the name is left out with all that stands in front of it. -/
  found : ∀ before after, segments = before ++ name :: after → name ∉ before → after ≠ [] →
    RootRule.apply ⟨false, spelling⟩ (".".intercalate segments) = ".".intercalate after
  /-- Without such a segment the path stays as it is. -/
  missing : name ∉ segments.dropLast →
    RootRule.apply ⟨false, spelling⟩ (".".intercalate segments) = ".".intercalate segments

variable (hempty : name ≠ "") (hname : '.' ∉ name.toList)
  (hspelling : spelling = name ∨ spelling = name ++ ".")
include hempty hname hspelling

/-- A name and the same name with a dot behind it say the same. -/
theorem packageKey_of_spelling :
    packageKey spelling.toList = name.toList ++ ['.'] ∧ spelling ≠ "" := by
  rcases hspelling with rfl | rfl
  · have hlast : ¬spelling.toList.getLast? = some '.' := mt List.mem_of_getLast? hname
    exact ⟨if_neg hlast, hempty⟩
  · have hdot : (name ++ ".").toList = name.toList ++ ['.'] := String.toList_append
    rw [hdot]
    exact ⟨if_pos (by simp), by simp⟩

theorem RootRule.apply_of_spelling :
    RootRule.apply ⟨false, spelling⟩ path =
      String.ofList (dropThrough (name.toList ++ ['.']) path.toList) := by
  obtain ⟨hkey, hspelled⟩ := packageKey_of_spelling hempty hname hspelling
  rw [RootRule.apply_of_package hspelled, hkey]

theorem RootRule.apply_of_firstEnding (hdots : ∀ other ∈ segments, '.' ∉ other.toList)
    (hfirst : FirstEnding name segments before segment after) :
    RootRule.apply ⟨false, spelling⟩ (".".intercalate segments) = ".".intercalate after := by
  obtain ⟨rfl, hmore, hends, hearlier⟩ := hfirst
  have hfound : afterFirst? (name.toList ++ ['.'])
      (joinWith ['.'] (before.map String.toList ++ segment.toList :: after.map String.toList)) =
        some (joinWith ['.'] (after.map String.toList)) := by
    refine afterFirst?_joinWith (by simpa using hempty) hname (by simpa using hmore) ?_
      (List.forall_mem_map.mpr hearlier) hends
    intro other hother
    rcases List.mem_append.mp hother with hother | hother
    · obtain ⟨first, hfirst, rfl⟩ := List.mem_map.mp hother
      exact hdots first (List.mem_append_left _ hfirst)
    · rw [List.mem_singleton.mp hother]
      exact hdots segment (by simp)
  rw [RootRule.apply_of_spelling hempty hname hspelling, toList_intercalate_eq, List.map_append,
    List.map_cons, dropThrough, show ".".toList = ['.'] from rfl, hfound, Option.getD_some,
    show ['.'] = ".".toList from rfl, ← toList_intercalate_eq, String.ofList_toList]

/-- Without a segment that ends with the name, the last one aside, the rule leaves the path as it
is. -/
theorem RootRule.apply_of_no_ending (hdots : ∀ other ∈ segments, '.' ∉ other.toList)
    (hends : ∀ other ∈ segments.dropLast, ¬EndsWithName other name) :
    RootRule.apply ⟨false, spelling⟩ (".".intercalate segments) = ".".intercalate segments := by
  have hnone : afterFirst? (name.toList ++ ['.']) (joinWith ['.'] (segments.map String.toList)) =
      none := by
    refine afterFirst?_joinWith_eq_none (by simpa using hempty) hname
      (List.forall_mem_map.mpr hdots) ?_
    rw [← List.map_dropLast]
    exact List.forall_mem_map.mpr hends
  have hjoin : (".".intercalate segments).toList =
      joinWith ['.'] (segments.map String.toList) := toList_intercalate_eq "." segments
  rw [RootRule.apply_of_spelling hempty hname hspelling, hjoin, dropThrough, hnone,
    Option.getD_none, ← hjoin, String.ofList_toList]

/-- The first segment that ends with the name is the name where the rule goes by whole segments. -/
theorem DropsNamedSegment.eq_of_firstEnding (hdots : ∀ other ∈ segments, '.' ∉ other.toList)
    (hwhole : DropsNamedSegment spelling name segments)
    (hfirst : FirstEnding name segments before segment after) : segment = name := by
  have hleft := RootRule.apply_of_firstEnding hempty hname hspelling hdots hfirst
  have hafter := hfirst.after_dotFree hdots
  by_cases hmem : name ∈ segments.dropLast
  · obtain ⟨front, rest, hsplit, hfront⟩ := List.eq_append_cons_of_mem hmem
    have hsegments : segments ≠ [] := by simp [hfirst.split]
    have hwholeSplit : segments = front ++ name :: (rest ++ [segments.getLast hsegments]) := by
      rw [← List.cons_append, ← List.append_assoc, ← hsplit, List.dropLast_concat_getLast]
    have hrest := hwhole.found front _ hwholeSplit hfront (by simp)
    have hsame : after = rest ++ [segments.getLast hsegments] :=
      intercalate_dot_inj hfirst.more (by simp) hafter
        (fun other hother => hdots other (by rw [hwholeSplit]; simp [hother]))
        (hleft.symm.trans hrest)
    have hpieces := hfirst.split.symm.trans hwholeSplit
    rw [hsame] at hpieces
    exact (List.cons.inj (List.append_inj_right' hpieces rfl)).1
  · -- The path would stay as it is, though its first segments are left out.
    have hsame := intercalate_dot_inj hfirst.more (by simp [hfirst.split]) hafter hdots
      (hleft.symm.trans (hwhole.missing hmem))
    have hlength := congrArg List.length (hsame.trans hfirst.split)
    simp at hlength
    omega

end Rule

section WholeSegments

variable {segments : List String} {name spelling : String}

/-- A rule with a package leaves out everything through the first segment that ends with the name,
the last one aside. It goes by whole segments exactly when that segment is the name. -/
theorem rootRule_drops_through_segment (hempty : name ≠ "") (hname : '.' ∉ name.toList)
    (hspelling : spelling = name ∨ spelling = name ++ ".")
    (hdots : ∀ segment ∈ segments, '.' ∉ segment.toList) :
    (∀ before segment after, FirstEnding name segments before segment after →
      RootRule.apply ⟨false, spelling⟩ (".".intercalate segments) = ".".intercalate after) ∧
    ((∀ segment ∈ segments.dropLast, ¬EndsWithName segment name) →
      RootRule.apply ⟨false, spelling⟩ (".".intercalate segments) = ".".intercalate segments) ∧
    (DropsNamedSegment spelling name segments ↔
      ∀ before segment after, FirstEnding name segments before segment after →
        segment = name) := by
  refine ⟨fun before segment after => RootRule.apply_of_firstEnding hempty hname hspelling hdots,
    RootRule.apply_of_no_ending hempty hname hspelling hdots,
    fun hwhole before segment after => hwhole.eq_of_firstEnding hempty hname hspelling hdots,
    fun hfirst => ⟨fun before after hsplit hbefore hafter => ?found, fun hmissing => ?missing⟩⟩
  case found =>
    refine RootRule.apply_of_firstEnding hempty hname hspelling hdots
      ⟨hsplit, hafter, List.suffix_refl _, fun other hother hends => hbefore ?_⟩
    obtain ⟨front, first, rest, hending, hmem⟩ :=
      exists_firstEnding (List.cons_ne_nil name after) hother hends
    exact hfirst _ _ _ (hsplit ▸ hending) ▸ hmem
  case missing =>
    refine RootRule.apply_of_no_ending hempty hname hspelling hdots fun other hother hends =>
      hmissing ?_
    have hsegments : segments ≠ [] := by
      rintro rfl
      exact List.not_mem_nil hother
    obtain ⟨front, first, rest, hending, hmem⟩ :=
      exists_firstEnding (List.cons_ne_nil (segments.getLast hsegments) []) hother hends
    rw [List.dropLast_concat_getLast] at hending
    exact hfirst _ _ _ hending ▸ hmem

/-- In `repo.mysrc.app` the rule for `src` leaves what stands behind `mysrc`. -/
theorem rootRule_drops_through_segment_mysrc :
    (∀ segment ∈ ["repo", "mysrc", "app"], '.' ∉ segment.toList) ∧
      FirstEnding "src" ["repo", "mysrc", "app"] ["repo"] "mysrc" ["app"] ∧
      RootRule.apply ⟨false, "src."⟩ (".".intercalate ["repo", "mysrc", "app"]) =
        ".".intercalate ["app"] ∧
      ¬DropsNamedSegment "src." "src" ["repo", "mysrc", "app"] := by
  have hdots : ∀ segment ∈ ["repo", "mysrc", "app"], '.' ∉ segment.toList := by decide
  have hfirst : FirstEnding "src" ["repo", "mysrc", "app"] ["repo"] "mysrc" ["app"] :=
    ⟨rfl, by decide, by decide, by decide⟩
  have hspelling : "src." = "src" ∨ "src." = "src" ++ "." := .inr rfl
  obtain ⟨hleft, -, hwhole⟩ :=
    rootRule_drops_through_segment (by decide) (by decide) hspelling hdots
  exact ⟨hdots, hfirst, hleft _ _ _ hfirst,
    fun hdrops => absurd (hwhole.mp hdrops _ _ _ hfirst) (by decide)⟩

/-- A name is not cut off by whole segments alone: `src` is found in `mysrc`. -/
theorem rootRule_splits_longer_segment :
    ¬∀ (segments : List String) (name spelling : String), segments ≠ [] →
      (∀ segment ∈ segments, segment ≠ "" ∧ '.' ∉ segment.toList) →
      name ≠ "" → '.' ∉ name.toList → (spelling = name ∨ spelling = name ++ ".") →
      DropsNamedSegment spelling name segments := by
  intro h
  have hwhole := h ["mysrc", "app"] "src" "src" (by simp) (by decide) (by decide) (by decide)
    (.inl rfl)
  have hkept := hwhole.missing (by decide)
  exact absurd hkept (by decide)

end WholeSegments

end TestCursor
