import Mathlib.Data.List.Nodup
import Mathlib.Tactic.Common
import RowFerry.Proofs.Odbc.FaithfulKeeper
import RowFerry.Rehearsal.Manager

/-!
Shelves as a faithful keeper. Every connection stands at most once on the shelves, idle or lent, so
one that is lent is idle nowhere; and what the manager makes is on no shelf yet.
-/

namespace RowFerry.Odbc

variable {μ κ : Type}

/-- A manager never makes the same connection twice: `issued` are those that it has made. -/
structure Manager.Fresh (m : Manager μ κ) (issued : μ → Set κ) : Prop where
  connect_ok : ∀ text s c, (m.connect text s).1 = .ok c → c ∉ issued s ∧
    c ∈ issued (m.connect text s).2
  connect : ∀ text s, issued s ⊆ issued (m.connect text s).2
  execute : ∀ c sql parameters s, issued s ⊆ issued (m.execute c sql parameters s).2
  disconnect : ∀ c s, issued s ⊆ issued (m.disconnect c s).2

namespace Manager

variable (m : Manager μ κ)

theorem connection_runFrom (text : String) (s : μ) :
    (m.connection text).runFrom s =
      ((m.connect text s).1.mapError fun d =>
        .init ("Failed to connect to DM via ODBC: " ++ d.text .connect), (m.connect text s).2) := by
  rw [connection, Act.runFrom_lift_bind]
  cases (m.connect text s).1 <;> rfl

theorem run_state (c : κ) (sql : String) (values : List Value) (s : μ) :
    ((m.run c sql values).runFrom s).2 = (m.execute c sql (values.map Parameter.ofValue) s).2 := by
  rw [run, Act.runFrom_lift_bind]
  match (m.execute c sql (values.map Parameter.ofValue) s).1 with
  | .error d => rfl
  | .ok (.affected n) => rfl
  | .ok (.rows set) =>
    cases h : set.fetchAll with
    | error f => simp only [h]; rfl
    | ok rows => simp only [h]; rfl

variable {m} {issued : μ → Set κ} (h : m.Fresh issued)

include h

theorem Fresh.connection_ok {text : String} {s s' : μ} {c : κ}
    (hc : (m.connection text).runFrom s = (.ok c, s')) : c ∉ issued s ∧ c ∈ issued s' := by
  rw [connection_runFrom] at hc
  cases hr : (m.connect text s).1 with
  | error d => simp [hr, Except.mapError] at hc
  | ok d =>
    obtain ⟨rfl, rfl⟩ : d = c ∧ (m.connect text s).2 = s' := by simpa [hr, Except.mapError] using hc
    exact h.connect_ok text s d hr

theorem Fresh.connection (text : String) (s : μ) :
    issued s ⊆ issued ((m.connection text).runFrom s).2 := by
  rw [connection_runFrom]
  exact h.connect text s

theorem Fresh.run (c : κ) (sql : String) (values : List Value) (s : μ) :
    issued s ⊆ issued ((m.run c sql values).runFrom s).2 := by
  rw [run_state]
  exact h.execute c sql _ s

end Manager

/-! ## Making connections -/

namespace Shelves

variable {m : Manager μ κ} {issued : μ → Set κ} (hm : m.Fresh issued)

include hm

theorem issued_disconnectAll (cs : List κ) (s : μ) : issued s ⊆ issued (disconnectAll m cs s) := by
  induction cs generalizing s with
  | nil => exact subset_rfl
  | cons c cs ih => exact (hm.disconnect c s).trans (ih _)

/-- The connections that are made for a pool are new and different from each other. -/
theorem connectMany_new (text : String) (n : Nat) (made : List κ) (s : μ) :
    issued s ⊆ issued (connectMany m text n made s).2 ∧
      ∀ cs, (connectMany m text n made s).1 = .ok cs →
        ∃ new, cs = made ++ new ∧ new.Nodup ∧
          ∀ c ∈ new, c ∉ issued s ∧ c ∈ issued (connectMany m text n made s).2 := by
  induction n generalizing made s with
  | zero =>
    refine ⟨subset_rfl, fun cs h => ⟨[], ?_, List.nodup_nil, fun _ h => absurd h List.not_mem_nil⟩⟩
    cases h
    exact (List.append_nil made).symm
  | succ n ih =>
    have hstep : issued s ⊆ issued ((m.connection text).runFrom s).2 := hm.connection text s
    cases hr : (m.connection text).runFrom s with
    | mk r s₁ =>
      rw [hr] at hstep
      cases r with
      | error f =>
        rw [connectMany, show (m.connection text).run.run s = _ from hr]
        exact ⟨hstep.trans (issued_disconnectAll hm made s₁), fun cs h => nomatch h⟩
      | ok c =>
        rw [connectMany, show (m.connection text).run.run s = _ from hr]
        obtain ⟨hold, hnew⟩ := hm.connection_ok hr
        obtain ⟨hrest, hmade⟩ := ih (made ++ [c]) s₁
        refine ⟨hstep.trans hrest, fun cs h => ?_⟩
        obtain ⟨new, rfl, hnodup, hall⟩ := hmade cs h
        refine ⟨c :: new, by simp, List.nodup_cons.mpr ⟨fun hc => (hall c hc).1 hnew, hnodup⟩, ?_⟩
        rintro d (_ | ⟨_, hd⟩)
        · exact ⟨hold, hrest hnew⟩
        · exact ⟨fun hs => (hall d hd).1 (hstep hs), (hall d hd).2⟩

end Shelves

/-! ## Counting connections -/

namespace Shelf

/-- The idle and the lent connections of a shelf. -/
def stock (shelf : Shelf κ) : List κ := shelf.idle ++ shelf.lent

variable [DecidableEq κ]

theorem takeBack_stock (c d : κ) (broken : Bool) (shelf : Shelf κ) :
    (shelf.takeBack c broken).stock.count d ≤ shelf.stock.count d := by
  rw [takeBack]
  split
  · rename_i hlent
    have hmem : c ∈ shelf.lent := by simpa using hlent
    have hperm : (c :: shelf.lent.erase c).count d = shelf.lent.count d :=
      ((List.perm_cons_erase hmem).count_eq d).symm
    rw [List.count_cons] at hperm
    cases broken <;> simp only [stock, List.count_append, List.count_cons,
      List.count_nil, reduceIte, Bool.false_eq_true] <;> omega
  · exact le_rfl

theorem takeBack_idle {c d : κ} {broken : Bool} (h : broken = false → c ≠ d) (shelf : Shelf κ) :
    (shelf.takeBack c broken).idle.count d ≤ shelf.idle.count d := by
  rw [takeBack]
  split
  · cases broken with
    | true => exact le_rfl
    | false => simp [h rfl]
  · exact le_rfl

theorem cleared_stock (c : κ) (shelf : Shelf κ) :
    shelf.cleared.stock.count c ≤ shelf.stock.count c := by
  rw [cleared]
  split
  · exact le_rfl
  · simp [stock]

theorem cleared_idle (c : κ) (shelf : Shelf κ) :
    shelf.cleared.idle.count c ≤ shelf.idle.count c := by
  rw [cleared]
  split
  · exact le_rfl
  · exact Nat.zero_le _

end Shelf

namespace Shelves

section Counting

variable [DecidableEq κ]

/-- How often a connection stands on the shelves, in the part of each that is looked at. -/
def count (part : Shelf κ → List κ) (c : κ) (shelves : Shelves κ) : Nat :=
  (shelves.flatMap part).count c

theorem count_cons (part : Shelf κ → List κ) (c : κ) (first : Shelf κ) (rest : Shelves κ) :
    count part c (first :: rest) = (part first).count c + count part c rest := by
  rw [count, count, List.flatMap_cons, List.count_append]

theorem count_stock (c : κ) (shelves : Shelves κ) :
    count Shelf.stock c shelves = count Shelf.idle c shelves + count Shelf.lent c shelves := by
  induction shelves with
  | nil => rfl
  | cons first rest ih =>
    rw [count_cons, count_cons, count_cons, ih, Shelf.stock, List.count_append]
    omega

/-- Putting another shelf in the place of one changes the count by what the two differ in. -/
theorem count_set {shelves : Shelves κ} {i : Nat} {shelf : Shelf κ} (h : shelves[i]? = some shelf)
    (part : Shelf κ → List κ) (c : κ) (other : Shelf κ) :
    count part c (shelves.set i other) + (part shelf).count c =
      count part c shelves + (part other).count c := by
  induction shelves generalizing i with
  | nil => cases h
  | cons first rest ih =>
    cases i with
    | zero =>
      cases h
      rw [List.set_cons_zero, count_cons, count_cons]
      omega
    | succ i =>
      have hrest := ih (i := i) h
      rw [List.set_cons_succ, count_cons, count_cons]
      omega

theorem count_modify (part : Shelf κ → List κ) {change : Shelf κ → Shelf κ}
    (h : ∀ shelf, part (change shelf) = part shelf) (c : κ) (shelves : Shelves κ) (i : Nat) :
    count part c (shelves.modify i change) = count part c shelves := by
  induction shelves generalizing i with
  | nil => rw [List.modify_nil]
  | cons first rest ih =>
    cases i with
    | zero => rw [List.modify_zero_cons, count_cons, count_cons, h]
    | succ i => rw [List.modify_succ_cons, count_cons, count_cons, ih]

theorem count_map_le {part : Shelf κ → List κ} {change : Shelf κ → Shelf κ} {c : κ}
    (h : ∀ shelf, (part (change shelf)).count c ≤ (part shelf).count c) (shelves : Shelves κ) :
    count part c (shelves.map change) ≤ count part c shelves := by
  induction shelves with
  | nil => exact Nat.le_refl _
  | cons first rest ih =>
    rw [List.map_cons, count_cons, count_cons]
    exact Nat.add_le_add (h first) ih

end Counting

/-! ## The requests -/

section Requests

variable [DecidableEq κ] {m : Manager μ κ} {issued : μ → Set κ}

/-- On the shelves every connection has been made and stands only once. -/
def view (issued : μ → Set κ) : KeeperView (Shelves κ) μ κ where
  sound w := ∀ c, count Shelf.stock c w.1 ≤ 1 ∧ (0 < count Shelf.stock c w.1 → c ∈ issued w.2)
  idle w := {c | 0 < count Shelf.idle c w.1}
  made w := issued w.2

variable {w w' : Shelves κ × μ} (hw : (view issued).sound w)

include hw

/-- A request may put up what is new, and otherwise makes nothing idle but
what is returned to it. -/
theorem keeps_of_count {new : List κ} {returned : Set κ} (hissued : issued w.2 ⊆ issued w'.2)
    (hnodup : new.Nodup) (hnew : ∀ c ∈ new, c ∉ issued w.2 ∧ c ∈ issued w'.2)
    (hstock : ∀ c, count Shelf.stock c w'.1 ≤ count Shelf.stock c w.1 + new.count c)
    (hidle : ∀ c, c ∉ returned → count Shelf.idle c w'.1 ≤ count Shelf.idle c w.1 + new.count c) :
    (view issued).Keeps returned w w' where
  sound c := by
    have hc := hstock c
    by_cases hmem : c ∈ new
    · have hzero : count Shelf.stock c w.1 = 0 := by
        by_contra hne
        exact (hnew c hmem).1 ((hw c).2 (Nat.pos_of_ne_zero hne))
      rw [hzero, hnodup.count, if_pos hmem] at hc
      exact ⟨by omega, fun _ => (hnew c hmem).2⟩
    · rw [List.count_eq_zero_of_not_mem hmem] at hc
      exact ⟨hc.trans (hw c).1, fun hpos => hissued ((hw c).2 (by omega))⟩
  free := by
    rintro c (hpos | hmade)
    · by_cases hreturned : c ∈ returned
      · exact .inr hreturned
      · by_cases hmem : c ∈ new
        · exact .inl (.inr (hnew c hmem).1)
        · have hle := hidle c hreturned
          rw [List.count_eq_zero_of_not_mem hmem] at hle
          exact .inl (.inl (Nat.lt_of_lt_of_le hpos hle))
    · exact .inl (.inr fun h => hmade (hissued h))

theorem keeps_of_le {returned : Set κ} (hissued : issued w.2 ⊆ issued w'.2)
    (hstock : ∀ c, count Shelf.stock c w'.1 ≤ count Shelf.stock c w.1)
    (hidle : ∀ c, c ∉ returned → count Shelf.idle c w'.1 ≤ count Shelf.idle c w.1) :
    (view issued).Keeps returned w w' :=
  keeps_of_count hw hissued List.nodup_nil (fun _ h => absurd h List.not_mem_nil) hstock hidle

/-- A connection that is lent is idle nowhere. -/
theorem not_free_of_lent {c : κ} (hc : 0 < count Shelf.lent c w.1) : c ∉ (view issued).free w := by
  have hsum := count_stock c w.1
  have hone := hw c
  rintro (hidle | hmade)
  · change 0 < count Shelf.idle c w.1 at hidle
    omega
  · exact hmade (hone.2 (by omega))

variable (hm : m.Fresh issued)

include hm

/-- Dropping what no shelf needs makes nothing idle. -/
theorem clear_keeps : (view issued).Keeps ∅ w (clear m w.1 w.2) :=
  keeps_of_le hw (issued_disconnectAll hm _ _) (fun c => count_map_le (Shelf.cleared_stock c) w.1)
    fun c _ => count_map_le (Shelf.cleared_idle c) w.1

theorem build_keeps (settings : PoolSettings) : (view issued).Keeps ∅ w (build m settings w).2 := by
  obtain ⟨shelves, s⟩ := w
  obtain ⟨hissued, hmade⟩ := connectMany_new hm settings.connection settings.minIdle [] s
  rw [build]
  cases hr : connectMany m settings.connection settings.minIdle [] s with
  | mk r s₁ =>
    rw [hr] at hissued hmade
    cases r with
    | error f => exact keeps_of_le hw hissued (fun _ => le_rfl) fun _ _ => le_rfl
    | ok cs =>
      obtain ⟨new, rfl, hnodup, hnew⟩ := hmade cs rfl
      refine keeps_of_count hw hissued hnodup hnew (fun c => ?_) fun c _ => ?_ <;>
        simp [count, Shelf.stock]

omit hm in
/-- Lending one of the idle and the new connections of a shelf, of which the others stay idle. -/
theorem lent_keeps {s' : μ} {pool : Nat} {shelf : Shelf κ}
    (hshelf : w.1[pool]? = some shelf) {c : κ} {rest new : List κ}
    (hperm : (c :: rest).Perm (shelf.idle ++ new)) (hissued : issued w.2 ⊆ issued s')
    (hnodup : new.Nodup) (hnew : ∀ d ∈ new, d ∉ issued w.2 ∧ d ∈ issued s') :
    let after := (w.1.set pool { shelf with idle := rest, lent := c :: shelf.lent }, s')
    (view issued).Keeps ∅ w after ∧ c ∈ (view issued).free w ∧ c ∉ (view issued).free after := by
  intro after
  have hidle (d : κ) :
      count Shelf.idle d after.1 + shelf.idle.count d = count Shelf.idle d w.1 + rest.count d :=
    count_set hshelf Shelf.idle d _
  have hlent (d : κ) :
      count Shelf.lent d after.1 + shelf.lent.count d =
        count Shelf.lent d w.1 + (c :: shelf.lent).count d :=
    count_set hshelf Shelf.lent d _
  have hparts (d : κ) : (c :: rest).count d = shelf.idle.count d + new.count d := by
    rw [hperm.count_eq, List.count_append]
  simp only [List.count_cons] at hlent hparts
  have hkeeps : (view issued).Keeps ∅ w after := by
    refine keeps_of_count hw hissued hnodup hnew (fun d => ?_) fun d _ => ?_
    · have hi := hidle d
      have hl := hlent d
      have hp := hparts d
      rw [count_stock, count_stock]
      omega
    · have hi := hidle d
      have hp := hparts d
      omega
  refine ⟨hkeeps, ?_, not_free_of_lent hkeeps.sound ?_⟩
  · by_cases hc : c ∈ new
    · exact .inr (hnew c hc).1
    · have hi := hidle c
      have hp := hparts c
      rw [List.count_eq_zero_of_not_mem hc, if_pos (beq_self_eq_true c)] at hp
      exact .inl (show 0 < count Shelf.idle c w.1 by omega)
  · have hl := hlent c
    rw [if_pos (beq_self_eq_true c)] at hl
    omega

/-- What is lent is idle or new, and it is idle nowhere from then on. -/
theorem lend_keeps (pool : Nat) :
    (view issued).Keeps ∅ w (lend m pool w).2 ∧
      ∀ c, (lend m pool w).1 = .ok c →
        c ∈ (view issued).free w ∧ c ∉ (view issued).free (lend m pool w).2 := by
  obtain ⟨shelves, s⟩ := w
  have refused (r : Refusal) {s' : μ} (h : issued s ⊆ issued s') :
      (view issued).Keeps ∅ (shelves, s) (shelves, s') ∧ ∀ c,
      (.error r : Except Refusal κ) = .ok c →
        c ∈ (view issued).free (shelves, s) ∧ c ∉ (view issued).free (shelves, s') :=
    ⟨keeps_of_le hw h (fun _ => le_rfl) fun _ _ => le_rfl, fun _ h => nomatch h⟩
  cases hshelf : shelves[pool]? with
  | none =>
    simp only [lend, hshelf]
    exact refused .timedOut subset_rfl
  | some shelf =>
    cases hidle : shelf.idle with
    | cons c rest =>
      have hperm : (c :: rest).Perm (shelf.idle ++ []) := by rw [hidle, List.append_nil]
      obtain ⟨hkeeps, hfree⟩ := lent_keeps hw hshelf hperm subset_rfl List.nodup_nil fun _ h =>
        absurd h List.not_mem_nil
      simp only [lend, hshelf, hidle]
      exact ⟨hkeeps, by rintro _ ⟨⟩; exact hfree⟩
    | nil =>
      by_cases hroom : shelf.settings.maxSize ≤ shelf.lent.length
      · simp only [lend, hshelf, hidle, if_pos hroom]
        exact refused .timedOut subset_rfl
      · have hissued := hm.connection shelf.settings.connection s
        cases hr : (m.connection shelf.settings.connection).runFrom s with
        | mk r s₁ =>
          have hrun : (m.connection shelf.settings.connection).run.run s = (r, s₁) := hr
          rw [hr] at hissued
          cases r with
          | error f =>
            simp only [lend, hshelf, hidle, if_neg hroom, hrun]
            exact refused (.failed f) hissued
          | ok c =>
            have hperm : (c :: []).Perm (shelf.idle ++ [c]) := by rw [hidle, List.nil_append]
            obtain ⟨hkeeps, hfree⟩ := lent_keeps hw hshelf hperm hissued (List.nodup_singleton c)
              (List.forall_mem_singleton.mpr (hm.connection_ok hr))
            simp only [lend, hshelf, hidle, if_neg hroom, hrun]
            exact ⟨hkeeps, by rintro _ ⟨⟩; exact hfree⟩

/-- A connection that is taken back becomes idle at most where it was lent, and
not when it is broken. -/
theorem takeBack_keeps (c : κ) (broken : Bool) :
    (view issued).Keeps (if broken then ∅ else {c}) w (takeBack m c broken w).2 := by
  have hissued : issued w.2 ⊆ issued (if broken then disconnectAll m [c] w.2 else w.2) := by
    split
    · exact issued_disconnectAll hm [c] w.2
    · exact subset_rfl
  have htaken : (view issued).Keeps (if broken then ∅ else {c}) w
      (w.1.map (Shelf.takeBack c broken), if broken then disconnectAll m [c] w.2 else w.2) :=
    keeps_of_le hw hissued (fun d => count_map_le (Shelf.takeBack_stock c d broken) w.1)
      fun d hd => count_map_le (Shelf.takeBack_idle fun hb hcd => hd (by subst hb hcd; rfl)) w.1
  exact htaken.trans (clear_keeps htaken.sound hm)

theorem giveUp_keeps (pool : Nat) : (view issued).Keeps ∅ w (giveUp m pool w).2 := by
  have hgiven : (view issued).Keeps ∅ w
    (w.1.modify pool fun shelf => { shelf with held := false }, w.2) :=
    keeps_of_le hw subset_rfl
      (fun c => le_of_eq (count_modify Shelf.stock (by intro; rfl) c w.1 pool))
      fun c _ => le_of_eq (count_modify Shelf.idle (by intro; rfl) c w.1 pool)
  exact hgiven.trans (clear_keeps hgiven.sound hm)

omit hw in
/-- Shelves are a faithful keeper when the manager makes every connection anew. -/
theorem keeper_faithful : (keeper m).Faithful m (view issued) where
  build settings _ hw := build_keeps hw hm settings
  lend pool _ hw := (lend_keeps hw hm pool).1
  lend_ok pool _ c hw h := (lend_keeps hw hm pool).2 c h
  takeBack c _ hw _ := takeBack_keeps hw hm c false
  takeBack_broken c _ hw _ := takeBack_keeps hw hm c true
  giveUp pool _ hw := giveUp_keeps hw hm pool
  run c sql values _ s hw :=
    keeps_of_le hw (hm.run c sql values s) (fun _ => le_rfl) fun _ _ => le_rfl

end Requests

/-- Nothing is wrong with no shelves. -/
theorem sound_nil [DecidableEq κ] (issued : μ → Set κ) (s : μ) :
    (view issued).sound ([], s) := fun _ =>
  ⟨Nat.zero_le 1, fun h => absurd h (Nat.lt_irrefl 0)⟩

end Shelves

end RowFerry.Odbc

namespace RowFerry.Rehearsal.Manager

theorem answer_made (sql : String) (parameters : List Odbc.Parameter) (m : Manager) :
    (answer sql parameters m).2.made = m.made := by
  unfold answer
  split
  · rfl
  · split
    · dsimp only
      split <;> rfl
    · split
      · rfl
      · split <;> rfl

theorem execute_made (sql : String) (parameters : List Odbc.Parameter) (m : Manager) :
    (execute sql parameters m).2.made = m.made := by
  cases hobey : obey sql (m.note (.executed sql parameters)) with
  | mk failure obeyed =>
    have hmade : obeyed.made = m.made := congrArg (fun r => r.2.made) hobey.symm
    simp only [execute, bind, StateT.bind, modify, modifyGet, MonadStateOf.modifyGet,
      StateT.modifyGet, pure]
    rw [hobey]
    cases failure with
    | some d => exact hmade
    | none => exact (answer_made sql parameters obeyed).trans hmade

/-- A manager that plays a script numbers the connections that it makes. -/
theorem fresh : manager.Fresh fun m => {n | n < m.made} where
  connect_ok text s c h := by
    cases h
    exact ⟨Nat.lt_irrefl _, Nat.lt_succ_self _⟩
  connect text s _ h := Nat.lt_succ_of_lt h
  execute c sql parameters s := by
    intro n hn
    rwa [Set.mem_ofPred_eq, show (manager.execute c sql parameters s).2.made =
      s.made from execute_made ..]
  disconnect _ _ := subset_rfl

end RowFerry.Rehearsal.Manager
