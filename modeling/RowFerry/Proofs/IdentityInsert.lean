import RowFerry.Proofs.Connections
import RowFerry.Proofs.StatementText
import RowFerry.Rehearsal.Pool

/-!
Identity insert after a bulk load. The last switch on a connection that is released is the one that
turns identity insert off, with one exception: when identity insert was turned on and that could not
be committed, the connection is released with identity insert still on.
-/

namespace RowFerry

variable {σ κ : Type}

/-- Is the call the execution, on the connection, of a statement that switches identity insert? -/
def Call.Switched (c : κ) : Call κ → Prop
  | execute d sql _ (.ok _) => d = c ∧ IsSwitch sql
  | _ => False

/-- The calls switch nothing on the connection. -/
def Quiet (c : κ) (calls : List (Call κ)) : Prop := ∀ call ∈ calls, ¬ call.Switched c

/-- The statement is the last one that switched identity insert, on or off, on the connection. -/
def LastSwitch (c : κ) (sql : String) (calls : List (Call κ)) : Prop :=
  ∃ before values o after,
    calls = before ++ .execute c sql values (.ok o) :: after ∧ IsSwitch sql ∧ Quiet c after

namespace Adapter

variable (a : Adapter σ κ)

/-- On every connection that the calls release, the last switch, if there was one, is the one that
turns identity insert off for the table. -/
def LeavesOff (table : String) (calls : List (Call κ)) : Prop :=
  ∀ c sql, .release c ∈ calls → LastSwitch c sql calls →
    a.compiler.identityInsert table false = .ok sql

/-- Identity insert was turned on, and the commit of this was refused. -/
def EnableNotCommitted (table : String) (calls : List (Call κ)) : Prop :=
  ∃ c enable o f, a.compiler.identityInsert table true = .ok enable ∧
    .acquire (.ok c) :: .execute c enable [] (.ok o) ::
      (o.closing ++ [.commit c (.error f)]) <+: calls

end Adapter

/-! ## The last switch -/

theorem Quiet.append {c : κ} {xs ys : List (Call κ)} (hx : Quiet c xs) (hy : Quiet c ys) :
    Quiet c (xs ++ ys) := by
  intro call h
  rcases List.mem_append.mp h with h | h
  · exact hx call h
  · exact hy call h

theorem Quiet.no_lastSwitch {c : κ} {sql : String} {calls : List (Call κ)} (h : Quiet c calls) :
    ¬ LastSwitch c sql calls := by
  rintro ⟨before, values, o, after, rfl, hsql, -⟩
  exact h _ (List.mem_append_right _ (List.mem_cons_self ..)) ⟨rfl, hsql⟩

/-- There is one last switch. -/
theorem LastSwitch.unique {c : κ} {sql sql' : String} {calls : List (Call κ)}
    (h : LastSwitch c sql calls) (h' : LastSwitch c sql' calls) : sql = sql' := by
  obtain ⟨before, values, o, after, rfl, hsql, hafter⟩ := h
  obtain ⟨before', values', o', after', heq, hsql', hafter'⟩ := h'
  -- Of two different places, the later one lies in what follows the earlier.
  rcases List.append_eq_append_iff.mp heq with ⟨mid, -, hmid⟩ | ⟨mid, -, hmid⟩
  · cases mid with
    | nil =>
      cases hmid
      rfl
    | cons call mid =>
      obtain ⟨-, rfl⟩ := List.cons.inj hmid
      exact absurd ⟨rfl, hsql'⟩ (hafter _ (List.mem_append_right _ (List.mem_cons_self ..)))
  · cases mid with
    | nil =>
      cases hmid
      rfl
    | cons call mid =>
      obtain ⟨-, rfl⟩ := List.cons.inj hmid
      exact absurd ⟨rfl, hsql⟩ (hafter' _ (List.mem_append_right _ (List.mem_cons_self ..)))

theorem closing_quiet (c : κ) (o : Outcome) : Quiet c o.closing := by
  cases o with
  | affected n => simp [Quiet, Outcome.closing]
  | rows cursor => simp [Quiet, Outcome.closing, Call.Switched]

theorem insertsRow_quiet {c d : κ} {compiled : Except CompileError Statement}
    (hs : ∀ s, compiled = .ok s → ¬ IsSwitch s.sql) {calls : List (Call κ)}
    {r : Except Failure Unit} (h : InsertsRow d compiled calls r) : Quiet c calls := by
  intro call hc
  cases h with
  | rejected _ => cases hc
  | refused _ f =>
    obtain rfl := List.mem_singleton.mp hc
    exact id
  | @inserted s hcompiled o =>
    rcases List.mem_cons.mp hc with rfl | hc
    · rintro ⟨-, hswitch⟩
      exact hs s hcompiled hswitch
    · exact closing_quiet c o call hc

theorem insertsRows_quiet {c d : κ} {compile : Row → Except CompileError Statement}
    (hs : ∀ row s, compile row = .ok s → ¬ IsSwitch s.sql) {rows : List Row} {calls : List (Call κ)}
    {result : BulkResult} (h : InsertsRows d compile rows calls result) : Quiet c calls := by
  induction h with
  | nil => simp [Quiet]
  | cons h _ ih => exact (insertsRow_quiet (hs _) h).append ih

theorem loadsBatch_quiet {c d : κ} {compile : Row → Except CompileError Statement}
    (hs : ∀ row s, compile row = .ok s → ¬ IsSwitch s.sql) {rows : List Row} {calls : List (Call κ)}
    {r : Except Failure BulkResult} (h : LoadsBatch compile rows d calls r) : Quiet c calls := by
  cases h with
  | mk h r => exact (insertsRows_quiet hs h).append (by simp [Quiet, Call.Switched])

/-! ## What is released -/

/-- What stays on a connection releases none. -/
theorem release_not_mem {c d : κ} {calls : List (Call κ)} (h : ∀ call ∈ calls, call.Uses c) :
    .release d ∉ calls :=
  fun hd => h _ hd

theorem released_eq {c d : κ} {calls : List (Call κ)} (h : ∀ call ∈ calls, call.Uses c)
    (hd : .release d ∈ .acquire (.ok c) :: (calls ++ [.release c])) : d = c := by
  simp only [List.mem_cons, List.mem_append, reduceCtorEq, Call.release.injEq, List.not_mem_nil,
    or_false, false_or] at hd
  rcases hd with hd | hd
  · exact absurd hd (release_not_mem h)
  · exact hd

namespace Adapter

variable (a : Adapter σ κ)

/-- A load that does not touch identity insert switches nothing. -/
theorem borrows_quiet (c : κ) {table : String} {rows : List Row} {calls : List (Call κ)}
    {r : Except Failure BulkResult}
    (h : Borrows (LoadsBatch (a.compiler.create table) rows) calls r) : Quiet c calls := by
  cases h with
  | refused f => simp [Quiet, Call.Switched]
  | returned d h =>
    have hbatch : Quiet c _ := loadsBatch_quiet (fun _ _ => a.compiler.create_not_isSwitch) h
    have hfirst : Quiet c [.acquire (.ok d)] := by simp [Quiet, Call.Switched]
    have hend : Quiet c [.release d] := by simp [Quiet, Call.Switched]
    exact hfirst.append (hbatch.append hend)

theorem borrows_leavesOff {table : String} {rows : List Row} {calls : List (Call κ)}
    {r : Except Failure BulkResult}
    (h : Borrows (LoadsBatch (a.compiler.create table) rows) calls r) : a.LeavesOff table calls :=
  fun c _ _ hlast => absurd hlast (a.borrows_quiet c h).no_lastSwitch

/-- Refused the statement that turns identity insert on, a load has switched nothing. -/
theorem not_enabled_leavesOff {table : String} {c : κ} {enable : String} {f : Failure} :
    a.LeavesOff table [.acquire (.ok c), .execute c enable [] (.error f), .release c] := by
  rintro d sql - hlast
  refine absurd hlast (Quiet.no_lastSwitch ?_)
  simp [Quiet, Call.Switched]

/-- A connection that is released after both switches was turned off by the second. -/
theorem disabled_leavesOff {table disable : String} {c : κ} {before off : List (Call κ)}
    (hdisable : a.compiler.identityInsert table false = .ok disable)
    (huse : ∀ call ∈ before ++ off, call.Uses c) (hoff : Switches c disable off (.ok ())) :
    a.LeavesOff table (.acquire (.ok c) :: (before ++ off ++ [.release c])) := by
  rintro d sql hd hlast
  obtain rfl : d = c := released_eq huse hd
  obtain ⟨o, rfl⟩ := hoff.ok_calls
  have hquiet : Quiet d (o.closing ++ [.commit d (.ok ()), .release d]) :=
    (closing_quiet d o).append (by simp [Quiet, Call.Switched])
  have hlastOff : LastSwitch d disable (.acquire (.ok d) :: (before ++
      .execute d disable [] (.ok o) :: (o.closing ++ [.commit d (.ok ())]) ++ [.release d])) :=
    ⟨.acquire (.ok d) :: before, [], o,
      _, by simp, a.compiler.identityInsert_isSwitch hdisable, hquiet⟩
  rw [hlast.unique hlastOff]
  exact hdisable

/-- Nothing is released when identity insert could not be turned off. -/
theorem discarded_leavesOff (table : String) {c : κ} {calls : List (Call κ)}
    (huse : ∀ call ∈ calls, call.Uses c) :
    a.LeavesOff table (.acquire (.ok c) :: (calls ++ [.discard c])) := by
  rintro d sql hd -
  simp only [List.mem_cons, List.mem_append, reduceCtorEq, List.not_mem_nil,
    or_false, false_or] at hd
  exact absurd hd (release_not_mem huse)

/-- A load between the two switches leaves identity insert off or fails to
commit the first switch. -/
theorem loadsToggled_leavesOff {table : String} {rows : List Row} {toggles : String × String}
    (htoggles : a.identityToggles table = .ok toggles) {calls : List (Call κ)}
    {r : Except Failure BulkResult}
    (h : LoadsToggled toggles.1 toggles.2 (LoadsBatch (a.compiler.create table) rows) calls r) :
    a.LeavesOff table calls ∨ a.EnableNotCommitted table calls := by
  obtain ⟨henable, hdisable⟩ := a.identityToggles_ok htoggles
  cases h with
  | refused f =>
    left
    rintro c sql hc -
    simp at hc
  | @notEnabled c calls f h =>
    rcases h.error_calls with rfl | ⟨o, rfl⟩
    · left
      exact a.not_enabled_leavesOff
    · right
      exact ⟨c, toggles.1, o, f, henable, [.release c], by simp⟩
  | @loaded c on batch off r reset hon h hoff =>
    left
    have huse : ∀ call ∈ on ++ batch ++ off, call.Uses c := by
      rw [List.append_assoc]
      exact loaded_uses (loadsBatch_staysOn _ rows) hon h hoff
    cases reset with
    | ok u =>
      have hall := a.disabled_leavesOff hdisable huse hoff
      simpa only [Call.ending, List.append_assoc] using hall
    | error f =>
      have hall := a.discarded_leavesOff table huse
      simpa only [Call.ending, List.append_assoc] using hall

/-- A connection that is released with nothing but the first switch on it has identity insert on. -/
theorem enabled_not_leavesOff {table enable : String} {c : κ} {o : Outcome} {f : Failure}
    (henable : a.compiler.identityInsert table true = .ok enable) :
    ¬ a.LeavesOff table (.acquire (.ok c) :: .execute c enable [] (.ok o) ::
      (o.closing ++ [.commit c (.error f), .release c])) := by
  intro hoff
  have hquiet : Quiet c (o.closing ++ [.commit c (.error f), .release c]) :=
    (closing_quiet c o).append (by simp [Quiet, Call.Switched])
  have hlast : LastSwitch c enable (.acquire (.ok c) :: .execute c enable [] (.ok o) ::
      (o.closing ++ [.commit c (.error f), .release c])) :=
    ⟨[.acquire (.ok c)], [], o, _, rfl, a.compiler.identityInsert_isSwitch henable, hquiet⟩
  exact a.compiler.identityInsert_on_ne_off henable (hoff c enable (by simp) hlast)

/-- A load that does not touch identity insert does not begin with a switch. -/
theorem borrows_not_enableNotCommitted {table : String} {rows : List Row} {calls : List (Call κ)}
    {r : Except Failure BulkResult}
    (h : Borrows (LoadsBatch (a.compiler.create table) rows) calls r) :
    ¬ a.EnableNotCommitted table calls := by
  rintro ⟨c, enable, o, f, henable, hbegin⟩
  have hquiet := a.borrows_quiet c h
  have hmem := hbegin.subset (List.mem_cons_of_mem _ (List.mem_cons_self ..))
  exact hquiet _ hmem ⟨rfl, a.compiler.identityInsert_isSwitch henable⟩

/-- The connection goes back at once when the first switch could not be committed. -/
theorem loadsToggled_not_leavesOff {table : String} {rows : List Row} {toggles : String × String}
    {calls : List (Call κ)} {r : Except Failure BulkResult}
    (h : LoadsToggled toggles.1 toggles.2 (LoadsBatch (a.compiler.create table) rows) calls r)
    (hon : a.EnableNotCommitted table calls) : ¬ a.LeavesOff table calls := by
  obtain ⟨d, enable, o, f, henable, more, hbegin⟩ := hon
  cases h with
  | refused f => cases hbegin
  | notEnabled h =>
    rcases h.error_calls with rfl | ⟨o', rfl⟩
    · cases hbegin
    · simp only [List.cons_append, List.append_assoc, List.cons.injEq, Call.acquire.injEq,
        Call.execute.injEq, Except.ok.injEq] at hbegin
      obtain ⟨rfl, ⟨-, rfl, -, rfl⟩, -⟩ := hbegin
      simpa using a.enabled_not_leavesOff henable
  | loaded hon h hoff =>
    obtain ⟨o', rfl⟩ := hon.ok_calls
    simp only [List.cons_append, List.append_assoc, List.cons.injEq, Call.execute.injEq,
      Except.ok.injEq] at hbegin
    obtain ⟨-, ⟨-, -, -, rfl⟩, hrest⟩ := hbegin
    have hcommit := List.append_cancel_left hrest
    cases hcommit

/-- **Identity insert is off on a connection that goes back, with one exception.** For
every batch and every pattern of answers, the last switch on a released connection is the
one that turns identity insert off, unless the statement that turns it on was executed and
the commit of it refused. -/
theorem bulkCreate_leavesOff_iff (table : String) (rows : List Row)
    (identityInsert : Bool) (s : σ) :
    a.LeavesOff table ((a.traced.bulkCreate table rows identityInsert).callsFrom s) ↔
      ¬ a.EnableNotCommitted table
        ((a.traced.bulkCreate table rows identityInsert).callsFrom s) := by
  have h := (a.bulkCreate_follows table rows identityInsert).calls s
  generalize (a.traced.bulkCreate table rows identityInsert).callsFrom s = calls,
    ((a.bulkCreate table rows identityInsert).runFrom s).1 = r at h ⊢
  cases identityInsert with
  | false => exact iff_of_true (a.borrows_leavesOff h) (a.borrows_not_enableNotCommitted h)
  | true =>
    cases h with
    | rejected _ =>
      refine iff_of_true ?_ ?_
      · rintro c sql hc -
        cases hc
      · rintro ⟨c, enable, o, f, -, hbegin⟩
        simp at hbegin
    | accepted htoggles h =>
      constructor
      · exact fun hoff hon => a.loadsToggled_not_leavesOff h hon hoff
      · exact (a.loadsToggled_leavesOff htoggles h).resolve_right

/-- The exception: the commit of the first switch is refused, and the connection is released on. -/
theorem refused_commit_leaves_on :
    ¬ (Rehearsal.Pool.adapter "APP").LeavesOff "users"
      (((Rehearsal.Pool.adapter "APP").traced.bulkCreate "users" [Row.ofList [("id", .i64 1)]]
        true).callsFrom (.refusingCommit 0)) := by
  have hcalls : ((Rehearsal.Pool.adapter "APP").traced.bulkCreate "users"
      [Row.ofList [("id", .i64 1)]] true).callsFrom (.refusingCommit 0) =
      [.acquire (.ok ()),
        .execute () "SET IDENTITY_INSERT \"APP\".\"users\" ON;" [] (.ok (.affected 0)),
        .commit () (.error (.driver "commit refused")), .release ()] := rfl
  rw [hcalls]
  exact (Rehearsal.Pool.adapter "APP").enabled_not_leavesOff (o := .affected 0) rfl

end Adapter

end RowFerry
