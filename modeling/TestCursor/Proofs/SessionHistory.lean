import TestCursor.Session

/-!
# Histories of a session

A session is asked for one thing after the other, and its terminal can refuse any line. What the
session remembers in the end, what its terminal was given and what the user was told can be read
off the history of requests.

1. A request attempts to send the command of a path (`perform_of_attempt`), or it tells the user
   that there is nothing to run again (`perform_of_isVain`), or it changes nothing
   (`perform_of_rest`).
2. So each entry of a history adds a known part to what is remembered, raised, sent and told
   (`Entry.Follows`).
3. By induction over the requests the parts add up over a whole history (`performAll_reads_off`).
-/

namespace TestCursor

/-- A terminal's state with a record of what was asked of it. -/
structure Watched (σ : Type) where
  /-- How often the terminal was raised. -/
  shown : Nat
  /-- The lines that the terminal took, the latest at the end. -/
  sent : List String
  surface : σ

/-- A terminal that keeps a record beside its state. It takes and refuses the same lines. -/
def Terminal.watched {σ : Type} (terminal : Terminal σ) : Terminal (Watched σ) where
  raise watched :=
    { watched with shown := watched.shown + 1, surface := terminal.raise watched.surface }
  send line watched :=
    match terminal.send line watched.surface with
    | (.ok (), surface) => (.ok (), { watched with sent := watched.sent ++ [line], surface })
    | (.error e, surface) => (.error e, { watched with surface })

namespace Session

variable {σ : Type}

/-- What can be asked of a session. -/
inductive Request
  | run (target : Target) (source : Source)
  | runTests (testPath : String)
  | runPrevious
  | resolve (target : Target) (source : Source)
  | analyze (source : Source)
  | modulePath (source : Source)
  | commandFor (testPath : String)

inductive Answer
  | sent (result : Except Error String)
  /-- The command that was sent again, or none. -/
  | repeated (result : Except Error (Option String))
  | resolution (result : Except Error Resolution)
  | analysis (result : Except Error Analysis)
  | modulePath (result : Except Error String)
  | command (line : String)

def perform (terminal : Terminal σ) (settings : Settings) (session : Session σ) :
    Request → Answer × Session σ
  | .run target source =>
    let (result, after) := session.run terminal settings target source
    (.sent result, after)
  | .runTests testPath =>
    let (result, after) := session.runTests terminal settings testPath
    (.sent result, after)
  | .runPrevious =>
    let (result, after) := session.runPrevious terminal settings
    (.repeated result, after)
  | .resolve target source => (.resolution (settings.resolve target source), session)
  | .analyze source => (.analysis (settings.analyze source), session)
  | .modulePath source => (.modulePath (settings.modulePathOf source), session)
  | .commandFor testPath => (.command (settings.commandFor testPath), session)

/-- Do all that is asked, one after the other. -/
def performAll (terminal : Terminal σ) (settings : Settings) (session : Session σ)
    (requests : List Request) : Session σ :=
  requests.foldl (fun session request => (session.perform terminal settings request).2) session

/-- The path of the tests that a request attempts to run: those it names, those that its target
resolves to, or the last ones. -/
def attempt? (settings : Settings) (last : String) : Request → Option String
  | .runTests testPath => some testPath
  | .run target source =>
    match settings.resolve target source with
    | .ok resolution => some resolution.testPath
    | .error _ => none
  | .runPrevious => if last.isEmpty then none else some last
  | _ => none

/-- The last tests are asked for when there are none. -/
def isVain (last : String) : Request → Bool
  | .runPrevious => last.isEmpty
  | _ => false

/-! ## One request -/

section Step

variable {terminal : Terminal σ} {settings : Settings} {session : Session σ} {request : Request}

/-- A session that attempts a path remembers it, raises the terminal and gives it the command. -/
theorem perform_of_attempt {path : String}
    (h : attempt? settings session.last request = some path) :
    (session.perform terminal settings request).2 =
      ⟨path, session.notices,
        (terminal.send (settings.commandFor path) (terminal.raise session.terminal)).2⟩ := by
  cases request with
  | runTests testPath =>
    obtain rfl := Option.some.inj h
    rfl
  | run target source =>
    simp only [attempt?] at h
    simp only [perform, run]
    split at h
    · next resolution hresolve =>
      obtain rfl := Option.some.inj h
      rw [hresolve]
      rfl
    · exact absurd h (by simp)
  | runPrevious =>
    cases hlast : session.last.isEmpty with
    | true => exact absurd h (by simp [attempt?, hlast])
    | false =>
      obtain rfl : session.last = path := by simpa [attempt?, hlast] using h
      simp only [perform, runPrevious, hlast]
      rfl
  | resolve | analyze | modulePath | commandFor => exact absurd h (by simp [attempt?])

/-- Without last tests the user is told so, and no command is answered. -/
theorem perform_of_isVain (h : isVain session.last request = true) :
    session.perform terminal settings request =
      (.repeated (.ok none),
        { session with notices := session.notices ++ [noPreviousTests] }) := by
  cases request with
  | runPrevious =>
    have hlast : session.last.isEmpty = true := h
    simp only [perform, runPrevious, if_pos hlast]
  | _ => exact absurd h (by simp [isVain])

theorem perform_of_rest (hattempt : attempt? settings session.last request = none)
    (hvain : isVain session.last request = false) :
    (session.perform terminal settings request).2 = session := by
  cases request with
  | run target source =>
    simp only [attempt?] at hattempt
    simp only [perform, run]
    split at hattempt
    · exact absurd hattempt (by simp)
    · next e hresolve => rw [hresolve]
  | runPrevious =>
    have hlast : session.last.isEmpty = false := hvain
    exact absurd hattempt (by simp [attempt?, hlast])
  | runTests testPath => exact absurd hattempt (by simp [attempt?])
  | resolve | analyze | modulePath | commandFor => rfl

/-- Without an attempt only the user can be told something. -/
theorem perform_of_no_attempt (h : attempt? settings session.last request = none) :
    (session.perform terminal settings request).2 = { session with
      notices := session.notices ++
        if isVain session.last request then [noPreviousTests] else [] } := by
  cases hvain : isVain session.last request with
  | true => rw [perform_of_isVain hvain, if_pos rfl]
  | false => rw [perform_of_rest h hvain, if_neg Bool.false_ne_true, List.append_nil]

/-- Running the last tests again keeps them the last ones. -/
theorem getD_attempt?_runPrevious (settings : Settings) (last : String) :
    (attempt? settings last .runPrevious).getD last = last := by
  cases h : last.isEmpty <;> simp [attempt?, h]

theorem isVain_of_ne_runPrevious {last : String} (h : request ≠ .runPrevious) :
    isVain last request = false := by
  cases request with
  | runPrevious => exact absurd rfl h
  | _ => rfl

theorem isVain_of_attempt {last path : String} (h : attempt? settings last request = some path) :
    isVain last request = false := by
  cases request with
  | runPrevious =>
    cases hlast : last.isEmpty with
    | true => exact absurd h (by simp [attempt?, hlast])
    | false => exact hlast
  | _ => rfl

end Step

/-! ## Entries -/

/-- A request with the session that it met, the answer, and the session after it. -/
structure Entry (σ : Type) where
  request : Request
  before : Session (Watched σ)
  answer : Answer
  after : Session (Watched σ)

/-- The entry that a request makes at a terminal that is watched. -/
def entryOf (terminal : Terminal σ) (settings : Settings) (session : Session (Watched σ))
    (request : Request) : Entry σ :=
  let outcome := session.perform terminal.watched settings request
  ⟨request, session, outcome.1, outcome.2⟩

/-- The entries that requests make, one after the other. -/
def history (terminal : Terminal σ) (settings : Settings) :
    Session (Watched σ) → List Request → List (Entry σ)
  | _, [] => []
  | session, request :: requests =>
    let entry := entryOf terminal settings session request
    entry :: history terminal settings entry.after requests

namespace Entry

/-- The path of the tests that were attempted. -/
def attempt? (settings : Settings) (entry : Entry σ) : Option String :=
  Session.attempt? settings entry.before.last entry.request

/-- The last tests were asked for when there were none. -/
def isVain (entry : Entry σ) : Bool := Session.isVain entry.before.last entry.request

/-- The terminal takes a line, when it is given it in the state that the request met. -/
def takes (terminal : Terminal σ) (entry : Entry σ) (line : String) : Bool :=
  match (terminal.send line (terminal.raise entry.before.terminal.surface)).1 with
  | .ok () => true
  | .error _ => false

/-- The line that reached the terminal: the command of an attempt, if it was taken. -/
def line? (terminal : Terminal σ) (settings : Settings) (entry : Entry σ) : Option String :=
  ((entry.attempt? settings).map settings.commandFor).filter (entry.takes terminal)

/-- What an entry adds to the session that it met. -/
structure Follows (terminal : Terminal σ) (settings : Settings) (entry : Entry σ) : Prop where
  last : entry.after.last = (entry.attempt? settings).getD entry.before.last
  shown : entry.after.terminal.shown =
    entry.before.terminal.shown + (entry.attempt? settings).toList.length
  sent : entry.after.terminal.sent =
    entry.before.terminal.sent ++ (entry.line? terminal settings).toList
  notices : entry.after.notices =
    entry.before.notices ++ if entry.isVain then [noPreviousTests] else []

end Entry

theorem shown_watched_send (terminal : Terminal σ) (line : String) (watched : Watched σ) :
    (terminal.watched.send line watched).2.shown = watched.shown := by
  simp only [Terminal.watched]
  split <;> rfl

theorem sent_watched_send (terminal : Terminal σ) (line : String) (watched : Watched σ) :
    (terminal.watched.send line watched).2.sent = watched.sent ++
      match (terminal.send line watched.surface).1 with
      | .ok () => [line]
      | .error _ => [] := by
  simp only [Terminal.watched]
  rcases terminal.send line watched.surface with ⟨_ | ⟨⟩, surface⟩
  · exact (List.append_nil _).symm
  · rfl

theorem Entry.line?_of_attempt {terminal : Terminal σ} {settings : Settings} {entry : Entry σ}
    {path : String} (h : entry.attempt? settings = some path) :
    (entry.line? terminal settings).toList =
      match (terminal.send (settings.commandFor path)
        (terminal.raise entry.before.terminal.surface)).1 with
      | .ok () => [settings.commandFor path]
      | .error _ => [] := by
  rw [line?, h, Option.map_some, Option.filter_some, takes]
  rcases (terminal.send (settings.commandFor path)
    (terminal.raise entry.before.terminal.surface)).1 with _ | ⟨⟩ <;> rfl

theorem follows_entryOf (terminal : Terminal σ) (settings : Settings)
    (session : Session (Watched σ)) (request : Request) :
    (entryOf terminal settings session request).Follows terminal settings := by
  cases hattempt : attempt? settings session.last request with
  | some path =>
    have hafter : (entryOf terminal settings session request).after = _ :=
      perform_of_attempt hattempt
    have hentry : (entryOf terminal settings session request).attempt? settings = some path :=
      hattempt
    have hvain : (entryOf terminal settings session request).isVain = false :=
      isVain_of_attempt hattempt
    refine ⟨?_, ?_, ?_, ?_⟩
    · rw [hafter, hentry, Option.getD_some]
    · rw [hafter, hentry, shown_watched_send]
      rfl
    · rw [hafter, sent_watched_send, Entry.line?_of_attempt hentry]
      rfl
    · rw [hafter, hvain]
      exact (List.append_nil _).symm
  | none =>
    have hafter : (entryOf terminal settings session request).after = _ :=
      perform_of_no_attempt hattempt
    have hentry : (entryOf terminal settings session request).attempt? settings = none := hattempt
    have hline : (entryOf terminal settings session request).line? terminal settings = none := by
      rw [Entry.line?, hentry]
      rfl
    refine ⟨?_, ?_, ?_, ?_⟩
    · rw [hafter, hentry]
      rfl
    · rw [hafter, hentry]
      rfl
    · rw [hafter, hline]
      exact (List.append_nil _).symm
    · rw [hafter]
      rfl

/-! ## A whole history -/

theorem filterMap_cons_toList {α β : Type} (f : α → Option β) (a : α) (l : List α) :
    (a :: l).filterMap f = (f a).toList ++ l.filterMap f := by
  cases h : f a <;> simp [h]

theorem getLast?_toList_append {α : Type} (o : Option α) (l : List α) (d : α) :
    (o.toList ++ l).getLast?.getD d = l.getLast?.getD (o.getD d) := by
  cases o <;> simp [List.getLast?_cons]

/-- What the entries of a history add to a session. -/
theorem performAll_reads_off (terminal : Terminal σ) (settings : Settings)
    (session : Session (Watched σ)) (requests : List Request) :
    let entries := history terminal settings session requests
    let attempts := entries.filterMap (Entry.attempt? settings)
    let final := session.performAll terminal.watched settings requests
    final.last = attempts.getLast?.getD session.last ∧
      final.terminal.shown = session.terminal.shown + attempts.length ∧
      final.terminal.sent =
        session.terminal.sent ++ entries.filterMap (Entry.line? terminal settings) ∧
      final.notices =
        session.notices ++ List.replicate (entries.countP Entry.isVain) noPreviousTests := by
  induction requests generalizing session with
  | nil => simp [history, performAll]
  | cons request requests ih =>
    have hfollows := follows_entryOf terminal settings session request
    obtain ⟨hlast, hshown, hsent, hnotices⟩ :=
      ih (entryOf terminal settings session request).after
    simp only [history, filterMap_cons_toList, getLast?_toList_append, List.length_append]
    refine ⟨?_, ?_, ?_, ?_⟩
    · exact hlast.trans (by rw [hfollows.last]; rfl)
    · exact hshown.trans (by rw [hfollows.shown, Nat.add_assoc]; rfl)
    · exact hsent.trans (by rw [hfollows.sent, List.append_assoc]; rfl)
    · refine hnotices.trans ?_
      rw [hfollows.notices, List.append_assoc, List.countP_cons, Nat.add_comm,
        ← List.replicate_append_replicate]
      congr 2
      split <;> rfl

theorem eq_entryOf_of_mem {terminal : Terminal σ} {settings : Settings}
    {session : Session (Watched σ)} {requests : List Request} {entry : Entry σ}
    (h : entry ∈ history terminal settings session requests) :
    entry = entryOf terminal settings entry.before entry.request := by
  induction requests generalizing session with
  | nil => exact absurd h (List.not_mem_nil)
  | cons request requests ih =>
    rcases List.mem_cons.mp h with rfl | h
    · rfl
    · exact ih h

/-- What a session that resumes from a path holds after any requests, at a terminal that can
refuse any line. It remembers the path of the last attempt; the terminal was raised once for each
attempt and has the commands of those it took, in their order; the user was told once for each
time that nothing was to be run again, which is answered by no command and changes nothing else.
Running the last tests again keeps what is remembered, and a request that attempts nothing leaves
the session as it is. -/
theorem session_after_requests (terminal : Terminal σ) (settings : Settings) (seed : String)
    (surface : σ) (requests : List Request) :
    let start : Session (Watched σ) := resume seed ⟨0, [], surface⟩
    let entries := history terminal settings start requests
    let attempts := entries.filterMap (Entry.attempt? settings)
    let final := start.performAll terminal.watched settings requests
    final.last = attempts.getLast?.getD seed ∧
      final.terminal.shown = attempts.length ∧
      final.terminal.sent = entries.filterMap (Entry.line? terminal settings) ∧
      final.notices = List.replicate (entries.countP Entry.isVain) "No previous tests!" ∧
      ∀ entry ∈ entries,
        (entry.isVain = true → entry.answer = .repeated (.ok none) ∧
          entry.after = { entry.before with
            notices := entry.before.notices ++ ["No previous tests!"] }) ∧
        (entry.request = .runPrevious → entry.after.last = entry.before.last) ∧
        (entry.attempt? settings = none → entry.request ≠ .runPrevious →
          entry.after = entry.before) := by
  intro start entries attempts final
  obtain ⟨hlast, hshown, hsent, hnotices⟩ := performAll_reads_off terminal settings start requests
  refine ⟨hlast, hshown.trans (Nat.zero_add _), hsent, hnotices, fun entry hentry => ?_⟩
  rw [eq_entryOf_of_mem hentry]
  refine ⟨fun hvain => ?_, fun hrequest => ?_, fun hattempt hrequest => ?_⟩
  · have hperform : entry.before.perform terminal.watched settings entry.request = _ :=
      perform_of_isVain hvain
    exact ⟨congrArg Prod.fst hperform, congrArg Prod.snd hperform⟩
  · rw [(follows_entryOf terminal settings entry.before entry.request).last]
    have hkept := getD_attempt?_runPrevious settings entry.before.last
    rwa [← hrequest] at hkept
  · exact perform_of_rest hattempt (isVain_of_ne_runPrevious hrequest)

/-- A run that cannot be resolved, the last tests when there are none, a line that the terminal
refuses, the same line once more, the suite, and the last tests after it. -/
def sampleRequests : List Request :=
  [.run .file ⟨.error (.other "closed"), .ok []⟩, .runPrevious, .runTests "shop.tests",
   .runPrevious, .runTests "", .runPrevious]

/-- The refused line is remembered and sent when it is asked for again; the suite leaves nothing
to run again. -/
theorem session_after_sampleRequests :
    let settings : Settings := ⟨Config.default, "python"⟩
    let start : Session (Watched Recording) :=
      resume "" ⟨0, [], ⟨0, [], some (.command "busy")⟩⟩
    let final := start.performAll Recording.terminal.watched settings sampleRequests
    final.last = "" ∧ final.terminal.shown = 3 ∧
      final.terminal.sent =
        ["python manage.py test shop.tests", "python manage.py test"] ∧
      final.notices = ["No previous tests!", "No previous tests!"] ∧
      (∃ entry ∈ history Recording.terminal settings start sampleRequests,
        entry.attempt? settings = none ∧ entry.request ≠ .runPrevious ∧
          entry.after = entry.before) ∧
      (∃ entry ∈ history Recording.terminal settings start sampleRequests,
        entry.isVain = true ∧ entry.request = .runPrevious ∧
          entry.answer = .repeated (.ok none) ∧ entry.after.last = entry.before.last) := by
  intro settings start final
  obtain ⟨hlast, hshown, hsent, hnotices, hentries⟩ :=
    session_after_requests Recording.terminal settings "" ⟨0, [], some (.command "busy")⟩
      sampleRequests
  refine ⟨hlast.trans (by decide), hshown.trans (by decide), hsent.trans (by decide),
    hnotices.trans (by decide), ⟨_, .head _, rfl, by simp [entryOf], ?_⟩,
    ⟨_, .tail _ (.head _), rfl, rfl, ?_⟩⟩
  · exact (hentries _ (.head _)).2.2 rfl (by simp [entryOf])
  · exact ⟨((hentries _ (.tail _ (.head _))).1 rfl).1, (hentries _ (.tail _ (.head _))).2.1 rfl⟩

end Session

end TestCursor
