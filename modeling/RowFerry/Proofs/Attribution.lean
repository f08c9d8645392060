import RowFerry.Proofs.Commits
import RowFerry.Proofs.ResultSet

/-!
Failures are attributed once and to the right operation. What the engine raises while a
connection is held is what the operation gives, with the stage of the operation unless it has
a place of its own already; a large object that cannot be read is a failure of the operation
that reads it; and nothing else is given, apart from a total that is not a number. What is
given is not attributed again.
-/

namespace RowFerry

variable {σ κ α β : Type}

/-! ## What is said of failures -/

/-- A failure as an operation reports it. A connection that could not be made, a statement that
could not be compiled and a failure that has a stage are reported as they are; of the others a
driver and a stream give their bare message, and the rest their text. -/
inductive Failure.AttributedTo (stage : Stage) : Failure → Failure → Prop
  | init (m : String) : AttributedTo stage (.init m) (.init m)
  | compile (c : CompileError) : AttributedTo stage (.compile c) (.compile c)
  | staged (s : Stage) (m : String) : AttributedTo stage (.execution s m) (.execution s m)
  | driver (m : String) : AttributedTo stage (.driver m) (.execution stage m)
  | stream (m : String) : AttributedTo stage (.stream m) (.execution stage m)
  | source (c : SourceError) : AttributedTo stage (.source c) (.execution stage (source c).message)
  | config (c : ConfigError) : AttributedTo stage (.config c) (.execution stage (config c).message)
  | io (m : String) : AttributedTo stage (.io m) (.execution stage (io m).message)
  | yaml (m : String) : AttributedTo stage (.yaml m) (.execution stage (yaml m).message)
  | json (m : String) : AttributedTo stage (.json m) (.execution stage (json m).message)

theorem Failure.attributedTo_atStage (stage : Stage) (f : Failure) :
    f.AttributedTo stage (f.atStage stage) := by
  cases f <;> constructor

/-- What is attributed is not attributed again. -/
theorem Failure.AttributedTo.atStage {stage : Stage} {f g : Failure} (h : f.AttributedTo stage g)
    (stage' : Stage) : g.atStage stage' = g := by
  cases h <;> rfl

/-! ## What is said of the calls -/

def CursorCall.isRead : CursorCall → Bool
  | reader _ .read => true
  | _ => false

namespace Cursor

/-- The reads of large objects, one after another, up to the end or the failure of the last. -/
def readsThrough : List (String × LargeObject) → Nat
  | [] => 0
  | p :: os => throughout p.2 + readsThrough os

/-- The fetch after all rows is made, and fails. -/
def FetchFails (c : Cursor) (calls : List CursorCall) (f : Failure) : Prop :=
  c.failure = some f ∧ c.rows.length < calls.count .fetch

/-- So many reads are made that one of them is the last of a large object, and fails. -/
def ReadFails (c : Cursor) (calls : List CursorCall) (f : Failure) : Prop :=
  ∃ before column o after, c.rows.flatMap objects = before ++ (column, o) :: after ∧
    o.failure = some f ∧ readsThrough (before ++ [(column, o)]) ≤ calls.countP CursorCall.isRead

end Cursor

def Call.cursorCall? : Call κ → Option CursorCall
  | cursor call => some call
  | _ => none

/-- The calls on result sets and on large objects. -/
def cursorCalls (calls : List (Call κ)) : List CursorCall := calls.filterMap Call.cursorCall?

def Call.commit? : Call κ → Option (Except Failure Unit)
  | commit _ r => some r
  | _ => none

/-- The answers to the commits, in order. -/
def commits (calls : List (Call κ)) : List (Except Failure Unit) := calls.filterMap Call.commit?

/-- The engine fails to execute, to fetch or to commit. -/
inductive Raised (calls : List (Call κ)) (f : Failure) : Prop
  | execute {c : κ} {sql : String} {values : List Value}
    (h : .execute c sql values (.error f) ∈ calls)
  | fetch {c : κ} {sql : String} {values : List Value} {cursor : Cursor}
    (h : .execute c sql values (.ok (.rows cursor)) ∈ calls)
    (hf : cursor.FetchFails (cursorCalls calls) f)
  | commit (h : .error f ∈ commits calls)

/-- A large object cannot be read. -/
def ReadRaised (calls : List (Call κ)) (f : Failure) : Prop :=
  ∃ c sql values cursor, .execute c sql values (.ok (.rows cursor)) ∈ calls ∧
    cursor.ReadFails (cursorCalls calls) f

/-- The engine fails to switch identity insert on or to commit the rows. Left out are the
rows themselves and the switch back: no execution counts but the first of a load that
switches, and no commit after that of the rows, which is the second if identity insert is
switched on before and else the first. -/
inductive LoadRaised (identityInsert : Bool) (calls : List (Call κ)) (f : Failure) : Prop
  | switch {c : κ} {sql : String} {more : List (Call κ)} (hi : identityInsert = true)
    (h : calls = .acquire (.ok c) :: .execute c sql [] (.error f) :: more)
  | commit (h : .error f ∈ (commits calls).take (if identityInsert then 2 else 1))

/-- What is raised is given, attributed to the stage; and once a connection was acquired
nothing is given that was not raised, but for a count whose total is not a number. What
is given has its place. -/
structure Attributes (stage : Stage) (raised : Failure → Prop) (calls : List (Call κ))
    (r : Except Failure α) : Prop where
  engine : ∀ f, raised f → ∃ g, r = .error g ∧ f.AttributedTo stage g
  reader : ∀ f, ReadRaised calls f → r = .error (.execution stage f.streamMessage)
  cause : ∀ c g, .acquire (.ok c) ∈ calls → r = .error g →
    (∃ f, raised f ∧ f.AttributedTo stage g) ∨
      (∃ f, ReadRaised calls f ∧ g = .execution stage f.streamMessage) ∨
      (stage = .count ∧ ∃ v : Value, g = .execution stage ("unexpected total " ++ v.shown))
  once : ∀ c g, .acquire (.ok c) ∈ calls → r = .error g → ∀ stage', g.atStage stage' = g

/-- The stage of an operation. A page with its total is two operations. -/
def Step.stage? : Step σ → Option Stage
  | .create .. => some .insert
  | .update .. => some .update
  | .delete .. => some .delete
  | .find .. => some .select
  | .count .. => some .count
  | .native .. => some .native
  | .bulk .. => some .bulk
  | _ => none

/-- The failures that an operation gives when the engine raises them. -/
def Step.raised : Step σ → List (Call κ) → Failure → Prop
  | .bulk _ _ identityInsert => LoadRaised identityInsert
  | _ => Raised

/-! ## Result sets -/

namespace Cursor

@[simp]
theorem readsThrough_append (xs ys : List (String × LargeObject)) :
    readsThrough (xs ++ ys) = readsThrough xs + readsThrough ys := by
  induction xs with
  | nil => simp [readsThrough]
  | cons p xs ih => simp [readsThrough, ih, Nat.add_assoc]

theorem readsThrough_single (p : String × LargeObject) :
    readsThrough [p] = p.2.chunks.length + 1 := rfl

/-- Where a list of objects is cut in two, what is read to its end within
the first part is in it. -/
theorem mem_of_readsThrough_le {xs ys before after : List (String × LargeObject)}
    {p : String × LargeObject} (hsplit : xs ++ ys = before ++ p :: after)
    (hreads : readsThrough (before ++ [p]) ≤ readsThrough xs) : p ∈ xs := by
  rcases List.append_eq_append_iff.mp hsplit with ⟨more, rfl, -⟩ | ⟨more, rfl, hmore⟩
  · rw [readsThrough_append, readsThrough_append, readsThrough_single] at hreads
    omega
  · cases more with
    | nil =>
      rw [readsThrough_append, readsThrough_single, List.append_nil] at hreads
      omega
    | cons q more =>
      obtain ⟨rfl, -⟩ := List.cons.inj hmore
      simp

theorem countP_isRead_visits (os : List (String × LargeObject)) :
    (visits throughout os).countP CursorCall.isRead = readsThrough os := by
  induction os with
  | nil => rfl
  | cons p os ih =>
    rw [visits, List.flatMap_cons, List.countP_append, ← visits, ih]
    simp [CursorCall.isRead, List.countP_replicate, readsThrough]

theorem countP_isRead_unread (os : List (String × LargeObject)) :
    (visits unread os).countP CursorCall.isRead = 0 := by
  rw [List.countP_eq_zero]
  intro call hcall
  obtain ⟨p, -, hp⟩ := List.mem_flatMap.mp hcall
  obtain rfl : call = .reader p.1 .close := by simpa [unread] using hp
  exact Bool.false_ne_true

theorem countP_isRead_fetching (rows : List RawRow) :
    (rows.flatMap fetching).countP CursorCall.isRead = readsThrough (rows.flatMap objects) := by
  induction rows with
  | nil => rfl
  | cons raw rows ih =>
    simp [fetching, ih, countP_isRead_visits, CursorCall.isRead]

theorem unreadable_not_mem {rows : List RawRow} (hread : ∀ raw ∈ rows, Readable raw)
    {p : String × LargeObject} {f : Failure} (hf : p.2.failure = some f) :
    p ∉ rows.flatMap objects := by
  intro hp
  obtain ⟨raw, hraw, hobject⟩ := List.mem_flatMap.mp hp
  cases hf.symm.trans (hread raw hraw p hobject)

section Fetches

variable {c : Cursor} {calls : List CursorCall} {r : Except Failure (List Row)}

theorem Fetches.fetch_fails (h : Fetches c.failure c.announced c.rows calls r) {f : Failure}
    (hf : c.FetchFails calls f) : r = .error f := by
  obtain ⟨hfailure, hmade⟩ := hf
  cases h with
  | satisfied hrows =>
    rw [count_fetch_fetching, hrows, List.length_append] at hmade
    omega
  | exhausted _ _ hnone => cases hfailure.symm.trans hnone
  | refused _ _ hsome =>
    cases hfailure.symm.trans hsome
    rfl
  | broken hrows =>
    rw [hrows] at hmade
    simp [count_fetch_fetching] at hmade

/-- The objects that are read up to one that fails are those of the rows before it, those before it
in its row, and itself. -/
theorem countP_isRead_broken (fetched : List RawRow) (before after : List (String × LargeObject))
    (p : String × LargeObject) :
    (fetched.flatMap fetching ++ .fetch ::
      (visits throughout (before ++ [p]) ++ visits unread after)).countP
        CursorCall.isRead = readsThrough (fetched.flatMap objects ++ (before ++ [p])) := by
  rw [List.countP_append, List.countP_cons, List.countP_append, countP_isRead_fetching,
    countP_isRead_visits, countP_isRead_unread, readsThrough_append]
  simp [CursorCall.isRead]

theorem Fetches.read_fails (h : Fetches c.failure c.announced c.rows calls r) {f : Failure}
    (hf : c.ReadFails calls f) : r = .error (.stream f.streamMessage) := by
  obtain ⟨before, column, o, after, hobjects, hf, hreads⟩ := hf
  have hmem : (column, o) ∈ c.rows.flatMap objects := by simp [hobjects]
  cases h with
  | satisfied hrows _ hread =>
    rw [hrows, List.flatMap_append] at hobjects
    rw [countP_isRead_fetching] at hreads
    exact absurd (mem_of_readsThrough_le hobjects hreads) (unreadable_not_mem hread hf)
  | exhausted _ hread | refused _ hread => exact absurd hmem (unreadable_not_mem hread hf)
  | @broken fetched rest raw before' after' column' o' f' hrows _ hread hobjects'
    hbefore hfailure =>
    have hsplit : fetched.flatMap objects ++ (before' ++ [(column', o')]) ++
        (after' ++ rest.flatMap objects) = before ++ (column, o) :: after := by
      rw [← hobjects, hrows]
      simp [hobjects']
    rw [countP_isRead_broken] at hreads
    -- Of the objects that were read only the last cannot be.
    have hlast := mem_of_readsThrough_le hsplit hreads
    simp only [List.mem_append, List.mem_singleton] at hlast
    rcases hlast with hlast | hlast | hlast
    · exact absurd hlast (unreadable_not_mem hread hf)
    · cases hf.symm.trans (hbefore _ hlast)
    · cases hlast
      cases hf.symm.trans hfailure
      rfl

theorem Fetches.cause {g : Failure} (h : Fetches c.failure c.announced c.rows calls (.error g)) :
    c.FetchFails calls g ∨ ∃ f, c.ReadFails calls f ∧ g = .stream f.streamMessage := by
  cases h with
  | refused _ _ hfailure =>
    refine .inl ⟨hfailure, ?_⟩
    rw [List.count_append, count_fetch_fetching]
    simp
  | @broken fetched rest _ before after column o f hrows _ _ hobjects _ hfailure =>
    have hsplit : c.rows.flatMap objects =
        (fetched.flatMap objects ++ before) ++ (column, o) :: (after ++ rest.flatMap objects) := by
      rw [hrows]
      simp [hobjects]
    refine .inr ⟨f, ⟨_, column, o, _, hsplit, hfailure, ?_⟩, rfl⟩
    rw [countP_isRead_broken, List.append_assoc]

end Fetches

/-- To close a result set is neither a fetch nor a read. -/
theorem fetchFails_closed {c : Cursor} {calls : List CursorCall} {f : Failure} :
    c.FetchFails (calls ++ [.close]) f ↔ c.FetchFails calls f := by
  simp [FetchFails]

theorem readFails_closed {c : Cursor} {calls : List CursorCall} {f : Failure} :
    c.ReadFails (calls ++ [.close]) f ↔ c.ReadFails calls f := by
  simp [ReadFails, CursorCall.isRead]

end Cursor

/-! ## What is done on a connection -/

/-- On a connection what is raised is what is given, and nothing else is. -/
structure Fails (calls : List (Call κ)) (r : Except Failure α) : Prop where
  engine : ∀ f, Raised calls f → r = .error f
  reader : ∀ f, ReadRaised calls f → r = .error (.stream f.streamMessage)
  cause : ∀ g, r = .error g → Raised calls g ∨ ∃ f, ReadRaised calls f ∧ g = .stream f.streamMessage

section Calls

variable {c : κ} {sql : String} {values : List Value} {answer : Except Failure Outcome}
  {calls rest : List (Call κ)} {f : Failure}

@[simp]
theorem cursorCalls_append (xs ys : List (Call κ)) :
    cursorCalls (xs ++ ys) = cursorCalls xs ++ cursorCalls ys := List.filterMap_append

@[simp]
theorem commits_append (xs ys : List (Call κ)) : commits (xs ++ ys) = commits xs ++ commits ys :=
  List.filterMap_append

@[simp]
theorem cursorCalls_cursor (calls : List CursorCall) :
    cursorCalls (calls.map (Call.cursor (κ := κ))) = calls := by
  rw [cursorCalls, List.filterMap_map]
  exact List.filterMap_some

@[simp]
theorem commits_cursor (calls : List CursorCall) :
    commits (calls.map (Call.cursor (κ := κ))) = [] := by
  rw [commits, List.filterMap_eq_nil_iff]
  simp [Call.commit?]

@[simp]
theorem commits_closing (o : Outcome) : commits (o.closing (κ := κ)) = [] := by
  cases o <;> rfl

theorem commits_executed (c : κ) (sql : String) (values : List Value) (o : Outcome)
    (r : Except Failure Unit) :
    commits (.execute c sql values (.ok o) :: (o.closing ++ [.commit c r])) = [r] := by
  have hcons : commits (.execute c sql values (.ok o) :: (o.closing ++ [.commit c r])) =
      commits (o.closing ++ [.commit c r]) := rfl
  rw [hcons, commits_append, commits_closing]
  rfl

/-- Calls that close every result set at once and do nothing else with it neither fetch nor read. -/
theorem Settled.cursorCalls_eq (h : Settled calls) : ∀ call ∈ cursorCalls calls, call = .close := by
  induction h with
  | nil => simp [cursorCalls]
  | @other call rest hcall _ ih =>
    cases call with
    | cursor call => exact absurd trivial hcall
    | _ => exact ih
  | closed _ ih => exact List.forall_mem_cons.mpr ⟨rfl, ih⟩

theorem Settled.not_fetchFails (h : Settled calls) (cursor : Cursor) :
    ¬ cursor.FetchFails (cursorCalls calls) f := by
  rintro ⟨-, hmade⟩
  have hnone : (cursorCalls calls).count .fetch = 0 := by
    rw [List.count_eq_zero]
    intro hmem
    cases h.cursorCalls_eq _ hmem
  omega

theorem Settled.not_readRaised (h : Settled calls) : ¬ ReadRaised calls f := by
  rintro ⟨c, sql, values, cursor, -, before, column, o, after, -, -, hreads⟩
  have hnone : (cursorCalls calls).countP CursorCall.isRead = 0 := by
    rw [List.countP_eq_zero]
    intro call hcall
    rw [h.cursorCalls_eq call hcall]
    simp [CursorCall.isRead]
  rw [Cursor.readsThrough_append, Cursor.readsThrough_single] at hreads
  omega

/-- With one statement executed, the engine fails when the statement is refused, a fetch from its
result set fails, or a commit does. -/
theorem raised_statement_iff (hrest : ∀ d sql values answer, .execute d sql values answer ∉ rest) :
    Raised (.execute c sql values answer :: rest) f ↔
      answer = .error f ∨
        (∃ cursor, answer = .ok (.rows cursor) ∧ cursor.FetchFails (cursorCalls rest) f) ∨
        .error f ∈ commits rest := by
  constructor
  · rintro (h | ⟨h, hf⟩ | h)
    · rcases List.mem_cons.mp h with h | h
      · cases h
        exact .inl rfl
      · exact (hrest _ _ _ _ h).elim
    · rcases List.mem_cons.mp h with h | h
      · cases h
        exact .inr (.inl ⟨_, rfl, hf⟩)
      · exact (hrest _ _ _ _ h).elim
    · exact .inr (.inr h)
  · rintro (rfl | ⟨cursor, rfl, hf⟩ | h)
    · exact .execute (List.mem_cons_self ..)
    · exact .fetch (List.mem_cons_self ..) hf
    · exact .commit h

theorem readRaised_statement_iff
    (hrest : ∀ d sql values answer, .execute d sql values answer ∉ rest) :
    ReadRaised (.execute c sql values answer :: rest) f ↔
      ∃ cursor, answer = .ok (.rows cursor) ∧ cursor.ReadFails (cursorCalls rest) f := by
  constructor
  · rintro ⟨d, sql', values', cursor, h, hf⟩
    rcases List.mem_cons.mp h with h | h
    · cases h
      exact ⟨cursor, rfl, hf⟩
    · exact (hrest _ _ _ _ h).elim
  · rintro ⟨cursor, rfl, hf⟩
    exact ⟨c, sql, values, cursor, List.mem_cons_self .., hf⟩

end Calls

section Statements

variable {c : κ} {sql : String} {values : List Value} {calls : List (Call κ)}

/-- Where one answer decides, its failure is given. -/
theorem Fails.of_answer (answer : Except Failure β) (g : β → α)
    (hraised : ∀ f, Raised calls f ↔ answer = .error f) (hread : ∀ f, ¬ ReadRaised calls f) :
    Fails calls (answer.map g) := by
  refine ⟨fun f hf => ?_, fun f hf => absurd hf (hread f), fun f hf => .inl ((hraised f).mpr ?_)⟩
  · rw [(hraised f).mp hf]
    rfl
  · cases answer <;> cases hf
    rfl

/-- A statement that is refused. -/
theorem fails_refused (c : κ) (sql : String) (values : List Value) (f : Failure) :
    Fails [.execute c sql values (.error f)] (.error f : Except Failure α) := by
  refine .of_answer (.error f) id (fun g => ?_) fun g => ?_
  · rw [raised_statement_iff (by simp)]
    simp [commits]
  · rw [readRaised_statement_iff (by simp)]
    simp

/-- A statement that affects rows and is then committed, or one whose result set is closed. -/
theorem fails_committed (c : κ) (sql : String) (values : List Value) (o : Outcome)
    (r : Except Failure Unit) (x : α) :
    Fails (.execute c sql values (.ok o) :: (o.closing ++ [.commit c r])) (r.map fun _ => x) := by
  have hsettled : Settled (.execute c sql values (.ok o) :: (o.closing ++ [.commit c r])) :=
    settled_executed c sql values o (.other id .nil)
  refine .of_answer r (fun _ => x) (fun g => ?_) fun _ => hsettled.not_readRaised
  have hnofetch (cursor : Cursor) :
    ¬ cursor.FetchFails (cursorCalls (o.closing ++ [.commit c r])) g :=
    hsettled.not_fetchFails cursor
  have hcommits : commits (o.closing ++ [.commit c r]) = [r] := commits_executed c sql values o r
  rw [raised_statement_iff (by simp), hcommits, List.mem_singleton]
  constructor
  · rintro (h | ⟨cursor, -, hf⟩ | h)
    · cases h
    · exact absurd hf (hnofetch cursor)
    · exact h.symm
  · exact fun h => .inr (.inr h.symm)

theorem changes_fails {r : Except Failure Nat} (h : Changes c sql values calls r) :
    Fails calls r := by
  cases h with
  | refused f => exact fails_refused c sql values f
  | executed o r => exact fails_committed c sql values o r o.count

/-- A result set that is read, or that there is no room for. -/
theorem fails_reading (c : κ) (sql : String) (values : List Value) {cursor : Cursor}
    {r : Except Failure (Option (List Row))} (h : Collects cursor calls r) :
    Fails (.execute c sql values (.ok (.rows cursor)) :: calls) r := by
  cases h with
  | crashed _ =>
    refine ⟨fun f hf => ?_, fun f hf => ?_, nofun⟩
    · rw [raised_statement_iff (by simp)] at hf
      simp [commits, cursorCalls, Cursor.FetchFails] at hf
    · rw [readRaised_statement_iff (by simp)] at hf
      obtain ⟨_, -, before, column, o, after, -, -, hreads⟩ := hf
      rw [Cursor.readsThrough_append, Cursor.readsThrough_single] at hreads
      simp [cursorCalls] at hreads
  | @read result heard hcollect =>
    obtain ⟨made, hmade, hfetches⟩ := Cursor.collect_fetches hcollect
    have hnone (d : κ) (sql : String) (values : List Value) (answer : Except Failure Outcome) :
        Call.execute d sql values answer ∉ heard.map .cursor := by simp
    have hraised (g : Failure) :
        Raised (.execute c sql values (.ok (.rows cursor)) :: heard.map .cursor) g ↔
          cursor.FetchFails made g := by
      rw [raised_statement_iff hnone, commits_cursor, cursorCalls_cursor, hmade]
      simp [Cursor.fetchFails_closed]
    have hread (g : Failure) :
        ReadRaised (.execute c sql values (.ok (.rows cursor)) :: heard.map .cursor) g ↔
          cursor.ReadFails made g := by
      rw [readRaised_statement_iff hnone, cursorCalls_cursor, hmade]
      simp [Cursor.readFails_closed]
    refine ⟨fun g hg => ?_, fun g hg => ?_, fun g hg => ?_⟩
    · rw [hfetches.fetch_fails ((hraised g).mp hg)]
      rfl
    · rw [hfetches.read_fails ((hread g).mp hg)]
      rfl
    · cases result with
      | ok rows => cases hg
      | error f =>
        cases hg
        rcases hfetches.cause with hf | ⟨f, hf, rfl⟩
        · exact .inl ((hraised _).mpr hf)
        · exact .inr ⟨f, (hread f).mpr hf, rfl⟩

theorem reads_fails {r : Except Failure (Option (List Row))} (h : Reads c sql values calls r) :
    Fails calls r := by
  cases h with
  | refused f => exact fails_refused c sql values f
  | affected n =>
    have hsettled : Settled [.execute c sql values (.ok (.affected n))] := .other id .nil
    refine ⟨fun f hf => ?_, fun f hf => absurd hf hsettled.not_readRaised, nofun⟩
    rw [raised_statement_iff (by simp)] at hf
    simp [commits] at hf
  | rows h => exact fails_reading c sql values h

theorem Fails.map {r : Except Failure α} (h : Fails calls r) (g : α → β) :
    Fails calls (r.map g) := by
  refine ⟨fun f hf => ?_, fun f hf => ?_, fun f hf => h.cause f ?_⟩
  · rw [h.engine f hf]
    rfl
  · rw [h.reader f hf]
    rfl
  · cases r <;> cases hf
    rfl

theorem runsNative_fails {r : Except Failure (Option NativeResult)}
    (h : RunsNative c sql values calls r) : Fails calls r := by
  cases h with
  | refused f => exact fails_refused c sql values f
  | affected n r =>
    exact fails_committed c sql values (.affected n) r (some (NativeResult.affected n))
  | rows h => exact (fails_reading c sql values h).map (Option.map NativeResult.rows)

end Statements

/-! ## Operations -/

section Operations

variable {stage : Stage} {calls : List (Call κ)} {raised : Failure → Prop}

/-- What is attributed has its place. -/
theorem Attributes.of {r : Except Failure α}
    (engine : ∀ f, raised f → ∃ g, r = .error g ∧ f.AttributedTo stage g)
    (reader : ∀ f, ReadRaised calls f → r = .error (.execution stage f.streamMessage))
    (cause : ∀ c g, .acquire (.ok c) ∈ calls → r = .error g →
      (∃ f, raised f ∧ f.AttributedTo stage g) ∨
        (∃ f, ReadRaised calls f ∧ g = .execution stage f.streamMessage) ∨
        (stage = .count ∧ ∃ v : Value, g = .execution stage ("unexpected total " ++ v.shown))) :
    Attributes stage raised calls r := by
  refine ⟨engine, reader, cause, fun c g hc hg stage' => ?_⟩
  rcases cause c g hc hg with ⟨f, -, hf⟩ | ⟨f, -, rfl⟩ | ⟨-, v, rfl⟩
  · exact hf.atStage stage'
  · rfl
  · rfl

/-- Without a connection nothing is raised. -/
theorem Attributes.of_unused {r : Except Failure α} (hraised : ∀ f, ¬ raised f)
    (hread : ∀ f, ¬ ReadRaised calls f) (hc : ∀ c, .acquire (.ok c) ∉ calls) :
    Attributes stage raised calls r :=
  .of (fun f hf => absurd hf (hraised f)) (fun f hf => absurd hf (hread f))
    fun c _ hmem _ => absurd hmem (hc c)

theorem Attributes.map {r : Except Failure α} (h : Attributes stage raised calls r) (g : α → β) :
    Attributes stage raised calls (r.map g) := by
  refine .of (fun f hf => ?_) (fun f hf => ?_) fun c f hc hf => h.cause c f hc ?_
  · obtain ⟨g, hr, hg⟩ := h.engine f hf
    rw [hr]
    exact ⟨g, rfl, hg⟩
  · rw [h.reader f hf]
    rfl
  · cases r <;> cases hf
    rfl

/-- Calls that do nothing but release connections. -/
def OnlyReleases (calls : List (Call κ)) : Prop := ∀ call ∈ calls, ∃ c, call = .release c

theorem onlyReleases_release (c : κ) : OnlyReleases [Call.release c] := by simp [OnlyReleases]

theorem onlyReleases_releasing (c : κ) (r : Except Failure (Option α)) :
    OnlyReleases (releasing c r) := by
  rcases r with f | _ | x <;> simp [OnlyReleases, releasing]

section Exchange

variable {ends : List (Call κ)} (hends : OnlyReleases ends) (c : κ) {f : Failure}
include hends

theorem cursorCalls_exchange (calls : List (Call κ)) :
    cursorCalls (.acquire (.ok c) :: (calls ++ ends)) = cursorCalls calls := by
  have hnone : cursorCalls ends = [] := by
    rw [cursorCalls, List.filterMap_eq_nil_iff]
    rintro call hcall
    obtain ⟨d, rfl⟩ := hends call hcall
    rfl
  exact (cursorCalls_append calls ends).trans (by rw [hnone, List.append_nil])

theorem commits_exchange (calls : List (Call κ)) :
    commits (.acquire (.ok c) :: (calls ++ ends)) = commits calls := by
  have hnone : commits ends = [] := by
    rw [commits, List.filterMap_eq_nil_iff]
    rintro call hcall
    obtain ⟨d, rfl⟩ := hends call hcall
    rfl
  exact (commits_append calls ends).trans (by rw [hnone, List.append_nil])

theorem execute_mem_exchange_iff {d : κ} {sql : String} {values : List Value}
    {answer : Except Failure Outcome} :
    .execute d sql values answer ∈ Call.acquire (.ok c) :: (calls ++ ends) ↔
      .execute d sql values answer ∈ calls := by
  have hnone : Call.execute d sql values answer ∉ ends := by
    intro hmem
    obtain ⟨_, hcall⟩ := hends _ hmem
    cases hcall
  simp [hnone]

/-- A connection that is acquired and released raises nothing of its own. -/
theorem raised_exchange_iff :
    Raised (.acquire (.ok c) :: (calls ++ ends)) f ↔ Raised calls f := by
  constructor
  · rintro (h | ⟨h, hf⟩ | h)
    · exact .execute ((execute_mem_exchange_iff hends c).mp h)
    · exact .fetch ((execute_mem_exchange_iff hends c).mp h)
        (cursorCalls_exchange hends c calls ▸ hf)
    · exact .commit (commits_exchange hends c calls ▸ h)
  · rintro (h | ⟨h, hf⟩ | h)
    · exact .execute ((execute_mem_exchange_iff hends c).mpr h)
    · exact .fetch ((execute_mem_exchange_iff hends c).mpr h)
        ((cursorCalls_exchange hends c calls).symm ▸ hf)
    · exact .commit ((commits_exchange hends c calls).symm ▸ h)

theorem readRaised_exchange_iff :
    ReadRaised (.acquire (.ok c) :: (calls ++ ends)) f ↔ ReadRaised calls f := by
  simp only [ReadRaised, execute_mem_exchange_iff hends c, cursorCalls_exchange hends c]

/-- What fails on a connection is attributed to the stage of its operation. -/
theorem exchange_attributes {r : Except Failure α} (h : Fails calls r) :
    Attributes stage (Raised (.acquire (.ok c) :: (calls ++ ends)))
      (.acquire (.ok c) :: (calls ++ ends)) (r.mapError (·.atStage stage)) := by
  refine .of (fun f hf => ?_) (fun f hf => ?_) fun _ g _ hg => ?_
  · rw [h.engine f ((raised_exchange_iff hends c).mp hf)]
    exact ⟨_, rfl, f.attributedTo_atStage stage⟩
  · rw [h.reader f ((readRaised_exchange_iff hends c).mp hf)]
    rfl
  · cases r with
    | ok x => cases hg
    | error f =>
      cases hg
      rcases h.cause f rfl with hf | ⟨f', hf, rfl⟩
      · exact .inl ⟨f, (raised_exchange_iff hends c).mpr hf, f.attributedTo_atStage stage⟩
      · exact .inr (.inl ⟨f', (readRaised_exchange_iff hends c).mpr hf, rfl⟩)

end Exchange

theorem commits_refused (f : Failure) : commits [.acquire (.error f : Except Failure κ)] = [] := rfl

theorem not_raised_refused (g f : Failure) :
    ¬ Raised [.acquire (.error g : Except Failure κ)] f := by
  rintro (h | ⟨h, -⟩ | h)
  · simp at h
  · simp at h
  · simp [commits_refused] at h

theorem not_readRaised_refused (g f : Failure) :
    ¬ ReadRaised [.acquire (.error g : Except Failure κ)] f :=
  Settled.not_readRaised (.other id .nil)

theorem borrows_attributes {P : κ → List (Call κ) → Except Failure α → Prop}
    (hP : ∀ c calls r, P c calls r → Fails calls r) {r : Except Failure α}
    (h : Borrows (AtStage stage P) calls r) : Attributes stage (Raised calls) calls r := by
  cases h with
  | refused f => exact .of_unused (not_raised_refused f) (not_readRaised_refused f) (by simp)
  | returned c h =>
    obtain ⟨r, h, rfl⟩ := h
    exact exchange_attributes (onlyReleases_release c) c (hP _ _ _ h)

theorem borrowsToRead_attributes {P : κ → List (Call κ) → Except Failure (Option α) → Prop}
    (hP : ∀ c calls r, P c calls r → Fails calls r) {r : Except Failure (Option α)}
    (h : BorrowsToRead (AtStage stage P) calls r) : Attributes stage (Raised calls) calls r := by
  cases h with
  | refused f => exact .of_unused (not_raised_refused f) (not_readRaised_refused f) (by simp)
  | used c h =>
    have hends := onlyReleases_releasing c r
    obtain ⟨r, h, rfl⟩ := h
    exact exchange_attributes hends c (hP _ _ _ h)

/-- A statement that cannot be compiled raises nothing. -/
theorem compiled_attributes {compiled : Except CompileError β}
    {P : β → List (Call κ) → Except Failure α → Prop} {raised : List (Call κ) → Failure → Prop}
    (hnil : ∀ f, ¬ raised [] f)
    (hP : ∀ x calls r, P x calls r → Attributes stage (raised calls) calls r) {r : Except Failure α}
    (h : Compiled compiled P calls r) : Attributes stage (raised calls) calls r := by
  cases h with
  | rejected _ => exact .of_unused hnil (fun _ => Settled.not_readRaised .nil) (by simp)
  | accepted _ h => exact hP _ _ _ h

theorem not_raised_nil (f : Failure) : ¬ Raised ([] : List (Call κ)) f := by
  rintro (h | ⟨h, -⟩ | h)
  · cases h
  · cases h
  · cases h

theorem readTotal_error {rows : List Row} {g : Failure} (h : readTotal rows = .error g) :
    ∃ v : Value, g = .execution .count ("unexpected total " ++ v.shown) := by
  unfold readTotal at h
  split at h
  · cases h
  · cases h
  · split at h
    · cases h
    · cases h
      exact ⟨_, rfl⟩

/-- A count fails as its query does, or because its total is not a number. -/
theorem counts_attributes {compiled : Except CompileError Statement}
    {r : Except Failure (Option Nat)}
    (h : Adapter.Counts compiled calls r) : Attributes .count (Raised calls) calls r := by
  refine compiled_attributes not_raised_nil (fun s calls r hr => ?_) h
  obtain ⟨rows, hrows, rfl⟩ := hr
  have hquery := borrowsToRead_attributes (fun _ _ _ => reads_fails) hrows
  refine .of (fun f hf => ?_) (fun f hf => ?_) fun c g hc hg => ?_
  · obtain ⟨g, hr, hg⟩ := hquery.engine f hf
    rw [hr]
    exact ⟨g, rfl, hg⟩
  · rw [hquery.reader f hf]
    rfl
  · cases rows with
    | error f =>
      cases hg
      exact hquery.cause c g hc rfl
    | ok rows =>
      cases rows with
      | none => cases hg
      | some rows =>
        have htotal : (readTotal rows).map some = .error g := hg
        exact .inr (.inr ⟨rfl, readTotal_error (map_eq_error_iff.mp htotal)⟩)

/-! ## Loads -/

/-- Where identity insert was not refused, only commits are raised. -/
theorem loadRaised_iff_commits {i : Bool} {f : Failure}
    (hswitch : i = true → ∀ c sql more,
      calls ≠ .acquire (.ok c) :: .execute c sql [] (.error f) :: more) :
    LoadRaised i calls f ↔ .error f ∈ (commits calls).take (if i then 2 else 1) := by
  constructor
  · rintro (⟨hi, h⟩ | h)
    · exact absurd h (hswitch hi _ _ _)
    · exact h
  · exact .commit

theorem not_loadRaised_refused (i : Bool) (g f : Failure) :
    ¬ LoadRaised i [.acquire (.error g : Except Failure κ)] f := by
  rintro (⟨-, h⟩ | h)
  · cases h
  · simp [commits_refused] at h

theorem InsertsRows.commits {c : κ}
    {compile : Row → Except CompileError Statement} {rows : List Row} {result : BulkResult}
    (h : InsertsRows c compile rows calls result) : commits calls = [] := by
  rw [RowFerry.commits, List.filterMap_eq_nil_iff]
  intro call hcall
  cases call with
  | commit d r => exact absurd hcall h.no_commit
  | _ => rfl

theorem commits_ending (c : κ) (reset : Except Failure Unit) :
    commits [Call.ending c reset] = [] := by
  cases reset <;> rfl

/-- Where one answer decides, its failure is attributed. -/
theorem Attributes.of_answer (answer : Except Failure β) (g : β → α)
    (hraised : ∀ f, raised f ↔ answer = .error f) (hread : ∀ f, ¬ ReadRaised calls f) :
    Attributes stage raised calls ((answer.mapError (·.atStage stage)).map g) := by
  refine .of (fun f hf => ?_) (fun f hf => absurd hf (hread f)) fun _ g' _ hg => ?_
  · rw [(hraised f).mp hf]
    exact ⟨_, rfl, f.attributedTo_atStage stage⟩
  · cases answer with
    | ok x => cases hg
    | error f =>
      cases hg
      exact .inl ⟨f, (hraised f).mpr rfl, f.attributedTo_atStage stage⟩

/-- Without identity insert the only commit decides. -/
theorem borrows_loadAttributes {compile : Row → Except CompileError Statement} {rows : List Row}
    {r : Except Failure BulkResult} (h : Borrows (LoadsBatch compile rows) calls r) :
    Attributes .bulk (LoadRaised false calls) calls r := by
  have hread (f : Failure) : ¬ ReadRaised calls f := (borrows_loadLaw h).settled.not_readRaised
  cases h with
  | refused f => exact .of_unused (not_loadRaised_refused false f) hread (by simp)
  | @returned c _ _ h =>
    cases h with
    | @mk inserts result hrows answer =>
      refine .of_answer _ _ (fun f => ?_) hread
      have hcommits : commits (.acquire (.ok c) ::
        ((inserts ++ [.commit c answer]) ++ [.release c])) =
          [answer] := by
        rw [commits_exchange (onlyReleases_release c), commits_append, hrows.commits]
        rfl
      rw [loadRaised_iff_commits nofun, hcommits]
      simp [eq_comm]

/-- With identity insert the first statement decides, and if it is accepted its
commit and that of the rows. -/
theorem loadsToggled_loadAttributes {enable disable : String}
    {compile : Row → Except CompileError Statement} {rows : List Row}
    {r : Except Failure BulkResult} (hsettled : Settled calls)
    (h : LoadsToggled enable disable (LoadsBatch compile rows) calls r) :
    Attributes .bulk (LoadRaised true calls) calls r := by
  have hread (f : Failure) : ¬ ReadRaised calls f := hsettled.not_readRaised
  cases h with
  | refused f => exact .of_unused (not_loadRaised_refused true f) hread (by simp)
  | @notEnabled c on f h =>
    have hraised (g : Failure) : LoadRaised true (.acquire (.ok c) :: (on ++ [.release c])) g ↔
        (.error f : Except Failure Unit) = .error g := by
      rcases h.error_calls with rfl | ⟨o, rfl⟩
      · constructor
        · rintro (⟨-, h⟩ | h)
          · cases h
            rfl
          · cases h
        · intro h
          cases h
          exact .switch rfl rfl
      · have hcommits : commits (.acquire (.ok c) ::
            (.execute c enable [] (.ok o) ::
              (o.closing ++ [.commit c (.error f)]) ++ [.release c])) = [.error f] := by
          rw [commits_exchange (onlyReleases_release c), commits_executed]
        rw [loadRaised_iff_commits (by simp), hcommits]
        simp [eq_comm]
    exact .of_answer (.error f : Except Failure Unit) (fun _ => ⟨0, []⟩) hraised hread
  | @loaded c on batch off r reset hon h hoff =>
    obtain ⟨o, rfl⟩ := hon.ok_calls
    cases h with
    | @mk inserts result hrows answer =>
      refine .of_answer _ _ (fun f => ?_) hread
      have hcommits : commits (.acquire (.ok c) :: (.execute c enable [] (.ok o) ::
          (o.closing ++ [.commit c (.ok ())]) ++ (inserts ++ [.commit c answer] ++
            (off ++ [.ending c reset])))) = .ok () :: answer :: commits off := by
        have hcons (calls : List (Call κ)) :
          commits (.acquire (.ok c) :: calls) = commits calls := rfl
        rw [hcons, commits_append, commits_append, commits_append, commits_append, hrows.commits,
          commits_executed, commits_ending, List.append_nil]
        rfl
      rw [loadRaised_iff_commits (by simp), hcommits]
      simp [eq_comm]

end Operations

/-! ## Sessions -/

namespace Adapter

variable (a : Adapter σ κ)

theorem not_loadRaised_nil (i : Bool) (f : Failure) : ¬ LoadRaised i ([] : List (Call κ)) f := by
  rintro (⟨-, h⟩ | h)
  · cases h
  · simp [commits] at h

theorem loads_attributes {table : String} {rows : List Row} {identityInsert : Bool}
    {calls : List (Call κ)} {r : Except Failure BulkResult}
    (h : a.Loads table rows identityInsert calls r) :
    Attributes .bulk (LoadRaised identityInsert calls) calls r := by
  have hsettled := (a.loads_loadLaw h).settled
  cases identityInsert with
  | false => exact borrows_loadAttributes h
  | true =>
    cases h with
    | rejected _ =>
      exact .of_unused (not_loadRaised_nil true) (fun _ => hsettled.not_readRaised) (by simp)
    | accepted _ h => exact loadsToggled_loadAttributes hsettled h

/-- An operation with a stage attributes what is raised to it. -/
def AttributionLaw (step : Step σ) (calls : List (Call κ)) (r : Except Failure StepResult) : Prop :=
  ∀ stage, step.stage? = some stage → Attributes stage (step.raised calls) calls r

theorem performs_attributionLaw (step : Step σ) (calls : List (Call κ))
    (r : Except Failure StepResult) (h : a.Performs step calls r) :
    AttributionLaw step calls r := by
  intro stage hstage
  cases step with
  | create | update | delete =>
    cases hstage
    obtain ⟨r', h, rfl⟩ := h
    exact (compiled_attributes not_raised_nil
      (fun _ _ _ => borrows_attributes fun _ _ _ => changes_fails) h).map _
  | find =>
    cases hstage
    obtain ⟨r', h, rfl⟩ := h
    exact (compiled_attributes not_raised_nil
      (fun _ _ _ => borrowsToRead_attributes fun _ _ _ => reads_fails) h).map _
  | count =>
    cases hstage
    obtain ⟨r', h, rfl⟩ := h
    exact (counts_attributes h).map _
  | native =>
    cases hstage
    obtain ⟨r', h, rfl⟩ := h
    exact (borrowsToRead_attributes (fun _ _ _ => runsNative_fails) h).map _
  | bulk =>
    cases hstage
    obtain ⟨r', h, rfl⟩ := h
    exact (a.loads_attributes h).map _
  | openPool | closePool | isOpen | findAllAndCount | migrate => cases hstage

/-- A page with its total is the search for the page and, only if that succeeds, the count; what
either fails with is what it gives. -/
structure InHalves (table : String) (criteria : Criteria) (s : σ) : Prop where
  notFound : ∀ f s', (a.find table criteria).runFrom s = (.error f, s') →
    (a.findAllAndCount table criteria).runFrom s = (.error f, s') ∧
      a.stepCalls (.findAllAndCount table criteria) s = a.stepCalls (.find table criteria) s
  crashed : ∀ s', (a.find table criteria).runFrom s = (.ok none, s') →
    (a.findAllAndCount table criteria).runFrom s = (.ok none, s') ∧
      a.stepCalls (.findAllAndCount table criteria) s = a.stepCalls (.find table criteria) s
  found : ∀ items s', (a.find table criteria).runFrom s = (.ok (some items), s') →
    ((a.findAllAndCount table criteria).runFrom s).1 =
        ((a.count table criteria.unpaged none).runFrom s').1.map
          (Option.map (FindResult.mk items)) ∧
      a.stepCalls (.findAllAndCount table criteria) s =
        a.stepCalls (.find table criteria) s ++ a.stepCalls (.count table criteria.unpaged none) s'

theorem inHalves (table : String) (criteria : Criteria) (s : σ) : a.InHalves table criteria s := by
  have hfind := a.find_follows table criteria
  have hcount := a.count_follows table criteria.unpaged none
  have hboth : a.stepCalls (.findAllAndCount table criteria) s =
      (a.traced.findAllAndCount table criteria).callsFrom s :=
    (a.findAllAndCount_follows table criteria).callsFrom_result
      (fun r => .ok (StepResult.ofReading .found r)) s
  have hpage : a.stepCalls (.find table criteria) s = (a.traced.find table criteria).callsFrom s :=
    hfind.callsFrom_result (fun r => .ok (StepResult.ofReading .rows r)) s
  refine ⟨fun f s' hfailed => ⟨Act.runFrom_bind_error hfailed, ?_⟩,
    fun s' hcrashed => ⟨Act.runFrom_bind_ok hcrashed, ?_⟩, fun items s' hfound => ⟨?_, ?_⟩⟩
  · rw [hboth, hpage]
    have htraced := hfind.runFrom s []
    rw [hfailed, List.nil_append] at htraced
    have hstop : (a.traced.findAllAndCount table criteria).runFrom (.start s) = _ :=
      Act.runFrom_bind_error htraced
    rw [Act.callsFrom, hstop]
  · have hsplit : (a.traced.findAllAndCount table criteria).callsFrom s = _ :=
      hfind.callsFrom_bind hcrashed (pure_follows none)
    rw [hboth, hpage, hsplit]
    exact List.append_nil _
  · have hsplit : (a.findAllAndCount table criteria).runFrom s =
        (a.count table criteria.unpaged none >>= fun n =>
          Act.ofExcept (.ok (n.map (FindResult.mk items)))).runFrom s' :=
      Act.runFrom_bind_ok hfound
    rw [hsplit, Act.runFrom_result]
    cases ((a.count table criteria.unpaged none).runFrom s').1 <;> rfl
  · have hsplit : (a.traced.findAllAndCount table criteria).callsFrom s = _ :=
      hfind.callsFrom_bind hfound (hcount.shape (Option.map (FindResult.mk items)))
    have htotal : a.stepCalls (.count table criteria.unpaged none) s' = _ :=
      hcount.callsFrom_result (fun n => .ok (StepResult.ofReading .count n)) s'
    rw [hboth, hpage, hsplit, htotal]
    exact congrArg _ (hcount.callsFrom_result (fun n => .ok (n.map (FindResult.mk items))) s')

/-- **Failures are attributed once, to the operation they belong to.** In every session each
operation with a stage gives what the engine raises while its connection is held, a failure with a
place of its own unchanged and any other with the stage of the operation; a large object that cannot
be read is a failure at that stage too; and once a connection was acquired nothing else is given,
but for a count whose total is not a number, and nothing that would be attributed again. A page with
its total fails as the search for the page, without the count, or as the count. -/
theorem session_attributes :
    (∀ (steps : List (Step σ)) (s : σ),
        List.Forall₂ (fun p calls => AttributionLaw p.1 calls p.2)
          (steps.zip ((a.performAll steps).run s).1) (a.sessionCalls steps s)) ∧
      ∀ (table : String) (criteria : Criteria) (s : σ), a.InHalves table criteria s :=
  ⟨a.session_forall a.performs_attributionLaw, a.inHalves⟩

end Adapter

end RowFerry
