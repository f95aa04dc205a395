import TestCursor.Proofs.JsonGrammar

/-!
# Texts of the grammar are read

The reader gives back the value of every text that the grammar spells, however deep its containers
are nested and wherever blanks stand.

1. `Reader.Passes`: reading a text in front of another one leads from one reader to the next. It
   keeps count of the tokens that may still be read, and texts that are passed one after the other
   are passed together (`Passes.trans`).
2. A value in front of any text that does not go on a number leads to the reader that has completed
   it (`Spells.passes`), by induction on the grammar.
3. So every text of the grammar is read as its value (`parse?_of_spellsText`).
-/

namespace TestCursor

namespace Json

/-! ## Reading on -/

theorem AreBlanks.isBlank {blanks : List Char} (h : AreBlanks blanks) :
    ∀ c ∈ blanks, Json.isBlank c = true := by
  intro c hc
  have hblank := h c hc
  simp only [List.mem_cons, List.not_mem_nil, or_false] at hblank
  rcases hblank with rfl | rfl | rfl | rfl <;> rfl

theorem noNumber_nil : NoNumber [] := fun c hc => by cases hc

theorem noNumber_cons {c : Char} (h : c.isDigit = false ∧ c ∉ ['.', 'e', 'E'])
    (rest : List Char) : NoNumber (c :: rest) := by
  intro d hd
  obtain rfl := Option.some.inj hd
  exact h

theorem noNumber_comma (rest : List Char) : NoNumber (',' :: rest) :=
  noNumber_cons (by decide) rest

theorem AreBlanks.noNumber {blanks rest : List Char} (h : AreBlanks blanks)
    (hrest : NoNumber rest) : NoNumber (blanks ++ rest) := by
  cases blanks with
  | nil => exact hrest
  | cons c blanks =>
    have hblank := h c List.mem_cons_self
    simp only [List.mem_cons, List.not_mem_nil, or_false] at hblank
    refine noNumber_cons ?_ _
    rcases hblank with rfl | rfl | rfl | rfl <;> decide

namespace Reader

/-- Reading a text in front of another one leads from one reader to the next. As many tokens may
still be read as there are characters left. -/
def Passes (reader : Reader) (text : List Char) (next : Reader) (rest : List Char) : Prop :=
  ∀ fuel, (text ++ rest).length ≤ fuel → ∃ left, rest.length ≤ left ∧
    reader.feedText fuel (text ++ rest) = next.feedText left rest

variable {reader middle next : Reader} {text more rest : List Char}

theorem Passes.trans (h : Passes reader text middle (more ++ rest))
    (h' : Passes middle more next rest) : Passes reader (text ++ more) next rest := by
  intro fuel hfuel
  rw [List.append_assoc] at hfuel ⊢
  obtain ⟨between, hbetween, hfirst⟩ := h fuel hfuel
  obtain ⟨left, hleft, hsecond⟩ := h' between hbetween
  exact ⟨left, hleft, hfirst.trans hsecond⟩

theorem passes_blanks {blanks : List Char} (h : AreBlanks blanks) (reader : Reader)
    (rest : List Char) : Passes reader blanks reader rest := by
  intro fuel hfuel
  refine ⟨fuel, by rw [List.length_append] at hfuel; omega, ?_⟩
  unfold feedText
  rw [List.dropWhile_append_of_pos h.isBlank]

theorem Passes.token {c : Char} {token : Token} (hblank : isBlank c = false)
    (htoken : token? (c :: text ++ rest) = some (token, rest))
    (hfeed : reader.feed token = some next) : Passes reader (c :: text) next rest := by
  intro fuel hfuel
  obtain ⟨left, rfl⟩ : ∃ left, fuel = left + 1 :=
    ⟨fuel - 1, by simp only [List.cons_append, List.length_cons] at hfuel; omega⟩
  refine ⟨left, ?_, ?_⟩
  · simp only [List.cons_append, List.length_cons, List.length_append] at hfuel
    omega
  · rw [List.cons_append] at htoken ⊢
    have hdrop : (c :: (text ++ rest)).dropWhile isBlank = c :: (text ++ rest) :=
      List.dropWhile_cons_of_neg (by simp [hblank])
    rw [feedText.eq_def]
    simp only [hdrop, htoken, hfeed]

theorem passes_string {content : Option String} (h : SpellsString text content)
    (hfeed : reader.feed (.string content) = some next) (rest : List Char) :
    Passes reader text next rest := by
  have htoken := token?_string h rest
  cases h <;> exact Passes.token (by decide) htoken hfeed

theorem passes_number (h : IsNumber text) (hrest : NoNumber rest)
    (hfeed : reader.feed (.number (String.ofList text)) = some next) :
    Passes reader text next rest := by
  have htoken := token?_number h hrest
  obtain ⟨c, others, rfl, hc⟩ := exists_head_of_isNumber h
  refine Passes.token ?_ htoken hfeed
  cases hblank : isBlank c with
  | false => rfl
  | true =>
    simp only [isBlank, Bool.or_eq_true, beq_iff_eq] at hblank
    rcases hblank with ((rfl | rfl) | rfl) | rfl <;> exact absurd hc (by decide)

/-- A token that begins a value is taken as the beginning of one. -/
def AwaitsValue (reader : Reader) : Prop :=
  ∀ token, token ≠ .arrayClose → reader.feed token = beginValue reader.frames token

theorem awaitsValue_value (frames : List Frame) : AwaitsValue ⟨frames, .value⟩ := fun _ _ => rfl

theorem awaitsValue_elementOrEnd (frames : List Frame) : AwaitsValue ⟨frames, .elementOrEnd⟩ := by
  intro token htoken
  cases token <;> first | rfl | exact absurd rfl htoken

/-- A string is taken as a key of an object, behind the members that were read. -/
def AwaitsKey (reader : Reader) (read : List (Option String × Json)) : Prop :=
  ∀ key, reader.feed (.string key) = some ⟨reader.frames, .colon read key⟩

end Reader

open Reader

mutual

theorem Spells.passes {reader : Reader} (hreader : AwaitsValue reader) {rest : List Char}
    (hrest : NoNumber rest) : ∀ {text value}, Spells text value →
      Passes reader text (complete reader.frames value) rest
  | _, _, .null => Passes.token rfl rfl (hreader .null (by decide))
  | _, _, .isTrue => Passes.token rfl rfl (hreader (.bool true) (by decide))
  | _, _, .isFalse => Passes.token rfl rfl (hreader (.bool false) (by decide))
  | _, _, .number h => passes_number h hrest (hreader _ (by simp))
  | _, _, .string h => passes_string h (hreader _ (by simp)) rest
  | _, _, .emptyArray hblanks => by
    have hopen (more : List Char) : Passes reader ['['] ⟨.array [] :: reader.frames, .elementOrEnd⟩
        more := Passes.token rfl rfl (hreader .arrayOpen (by decide))
    have hclose : Passes ⟨.array [] :: reader.frames, .elementOrEnd⟩ [']']
        (complete reader.frames (.array [])) rest := Passes.token rfl rfl rfl
    exact (hopen _).trans ((passes_blanks hblanks _ _).trans hclose)
  | _, _, @Spells.array _ elements h => by
    have hopen (more : List Char) : Passes reader ['['] ⟨.array [] :: reader.frames, .elementOrEnd⟩
        more := Passes.token rfl rfl (hreader .arrayOpen (by decide))
    have hclose : Passes ⟨.array (elements.reverse ++ []) :: reader.frames, .separator⟩ [']']
        (complete reader.frames (.array elements)) rest :=
      Passes.token rfl rfl (by simp [feed])
    exact (hopen _).trans ((h.passes (awaitsValue_elementOrEnd _) rfl
      (noNumber_cons (by decide) rest)).trans hclose)
  | _, _, .emptyObject hblanks => by
    have hopen (more : List Char) : Passes reader ['{'] ⟨reader.frames, .keyOrEnd⟩ more :=
      Passes.token rfl rfl (hreader .objectOpen (by decide))
    have hclose : Passes ⟨reader.frames, .keyOrEnd⟩ ['}'] (complete reader.frames (.object []))
        rest := Passes.token rfl rfl rfl
    exact (hopen _).trans ((passes_blanks hblanks _ _).trans hclose)
  | _, _, @Spells.object _ members h => by
    have hopen (more : List Char) : Passes reader ['{'] ⟨reader.frames, .keyOrEnd⟩ more :=
      Passes.token rfl rfl (hreader .objectOpen (by decide))
    have hclose : Passes ⟨.object (members.reverse ++ []) none :: reader.frames, .separator⟩ ['}']
        (complete reader.frames (.object members)) rest :=
      Passes.token rfl rfl (by simp [feed])
    exact (hopen _).trans ((h.passes (fun _ => rfl)
      (noNumber_cons (by decide) rest)).trans hclose)

theorem SpellsText.passes {reader : Reader} (hreader : AwaitsValue reader) {rest : List Char}
    (hrest : NoNumber rest) : ∀ {text value}, SpellsText text value →
      Passes reader text (complete reader.frames value) rest
  | _, _, .mk hbefore h hbehind =>
    (passes_blanks hbefore _ _).trans
      ((h.passes hreader (hbehind.noNumber hrest)).trans (passes_blanks hbehind _ _))

theorem SpellsElements.passes {reader : Reader} {read : List Json} {frames : List Frame}
    (hreader : AwaitsValue reader) (hframes : reader.frames = .array read :: frames)
    {rest : List Char} (hrest : NoNumber rest) : ∀ {text elements}, SpellsElements text elements →
      Passes reader text ⟨.array (elements.reverse ++ read) :: frames, .separator⟩ rest
  | _, _, .last h => by
    have hvalue := h.passes hreader hrest
    rwa [hframes] at hvalue
  | _, _, @SpellsElements.more _ _ value values h others => by
    have hvalue (more : List Char) := h.passes hreader (noNumber_comma more)
    rw [hframes] at hvalue
    have hcomma (more : List Char) : Passes ⟨.array (value :: read) :: frames, .separator⟩ [',']
        ⟨.array (value :: read) :: frames, .value⟩ more := Passes.token rfl rfl rfl
    have hothers := others.passes (awaitsValue_value (.array (value :: read) :: frames)) rfl hrest
    have hread : (value :: values).reverse ++ read = values.reverse ++ value :: read := by simp
    rw [hread]
    exact (hvalue _).trans ((hcomma _).trans hothers)

theorem SpellsMember.passes {reader : Reader} {read : List (Option String × Json)}
    (hreader : AwaitsKey reader read) {rest : List Char} (hrest : NoNumber rest) :
    ∀ {text member}, SpellsMember text member →
      Passes reader text ⟨.object (member :: read) none :: reader.frames, .separator⟩ rest
  | _, _, @SpellsMember.mk _ _ _ _ name _ hbefore hkey hbehind h => by
    have hname (more : List Char) := passes_string hkey (hreader name) more
    have hcolon (more : List Char) : Passes ⟨reader.frames, .colon read name⟩ [':']
        ⟨.object read name :: reader.frames, .value⟩ more := Passes.token rfl rfl rfl
    exact (passes_blanks hbefore _ _).trans ((hname _).trans ((passes_blanks hbehind _ _).trans
      ((hcolon _).trans (h.passes (awaitsValue_value _) hrest))))

theorem SpellsMembers.passes {reader : Reader} {read : List (Option String × Json)}
    (hreader : AwaitsKey reader read) {rest : List Char} (hrest : NoNumber rest) :
    ∀ {text members}, SpellsMembers text members →
      Passes reader text ⟨.object (members.reverse ++ read) none :: reader.frames, .separator⟩ rest
  | _, _, .last h => h.passes hreader hrest
  | _, _, @SpellsMembers.more _ _ member members h others => by
    have hmember (more : List Char) := h.passes hreader (noNumber_comma more)
    have hcomma (more : List Char) :
        Passes ⟨.object (member :: read) none :: reader.frames, .separator⟩ [',']
          ⟨reader.frames, .key (member :: read)⟩ more := Passes.token rfl rfl rfl
    have hkey : AwaitsKey ⟨reader.frames, .key (member :: read)⟩ (member :: read) := fun _ => rfl
    have hothers := others.passes hkey hrest
    have hread : (member :: members).reverse ++ read = members.reverse ++ member :: read := by
      simp
    rw [hread]
    exact (hmember _).trans ((hcomma _).trans hothers)

end

theorem parse?_of_spellsText {text : String} {value : Json}
    (h : SpellsText text.toList value) : parse? text = some value := by
  obtain ⟨left, -, hread⟩ := h.passes (awaitsValue_value []) noNumber_nil text.toList.length
    (by simp)
  rw [List.append_nil] at hread
  have hdone : (complete [] value).feedText left [] = some ⟨[], .nothing value⟩ := by
    unfold Reader.feedText
    rfl
  rw [parse?, Reader.start, hread, hdone]
  rfl

end Json

end TestCursor
