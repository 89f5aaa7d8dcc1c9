import Reactive.Proofs.Events.Traced
import Reactive.Proofs.Runtime.Calm
import Reactive.Proofs.Teardown.Unmount

/-!
# Counting fired keys through a run

A key the host fires is taken from its queue by whichever instance drains it. From there it is
run by the instance of the tree that has its number, or it climbs through outboxes to the
instance the run started from, which keeps it for its caller. `Tally extra c c' new` says that a
run from `c` to `c'` that recorded `new` lost and doubled no key: the keys it was given (`extra`)
and the keys it took from the host are, one for one, the handlers it ran, all of the tree, and
the keys it appended to the instance's outbox, none of the tree. The tree keeps the numbers of
its instances, and the outboxes below the instance are empty at the end.

`Traced.Tallies extra t c` says it of every successful run of `t` from a cursor whose nested
outboxes are empty. The rules below carry it through the monad and through the runtime's steps:
a step that leaves keys alone, a handler run, the hand-out of the host's queue, a key put in the
outbox, work on a nested instance followed by the routing of its outbox, and a flush that
catches a failure and passes it on.
-/

namespace Reactive

open Component Act

/-- Whether the instance at a cursor, or one nested in it, has the number of a key. -/
def Cursor.owns (c : Cursor) (key : HandlerKey) : Bool := (Instance.node c.self c.children).owns key

/-- No outbox below the instance holds a fired key; its own may. -/
def Cursor.Settled (c : Cursor) : Prop := ∀ g ∈ c.children, g.Settled

/-! ## Ownership -/

namespace Instance

theorem ownsAmong_eq_any (key : HandlerKey) (cs : List Instance) :
    ownsAmong key cs = cs.any (owns key) := by
  induction cs with
  | nil => rfl
  | cons g cs ih => rw [ownsAmong, ih, List.any_cons]

/-- Putting in place of a nested instance one that owns the same keys keeps what the list owns. -/
theorem ownsAmong_set {cs : List Instance} {index : Nat} {g g' : Instance}
    (hg : cs[index]? = some g) (h : ∀ key, owns key g' = owns key g) (key : HandlerKey) :
    ownsAmong key (cs.set index g') = ownsAmong key cs := by
  induction cs generalizing index with
  | nil => simp at hg
  | cons x cs ih =>
    cases index with
    | zero =>
      rw [List.getElem?_cons_zero, Option.some.injEq] at hg
      rw [List.set_cons_zero, ownsAmong, ownsAmong, h, hg]
    | succ i =>
      rw [List.getElem?_cons_succ] at hg
      rw [List.set_cons_succ, ownsAmong, ownsAmong, ih hg]

theorem Settled.state {g : Instance} (h : g.Settled) :
    g.state.outbox = [] ∧ ∀ x ∈ g.children, x.Settled := by
  cases g with
  | node s gs => exact h.inv

end Instance

namespace Cursor

variable {c : Cursor} {key : HandlerKey}

theorem owns_of_owner (h : (key.owner == c.self.id) = true) : c.owns key = true := by
  have hid : key.owner = c.self.id := by simpa using h
  simp [owns, Instance.owns, hid]

theorem owns_of_mem {g : Instance} (hg : g ∈ c.children) (h : g.owns key = true) :
    c.owns key = true := by
  simp only [owns, Instance.owns, Instance.ownsAmong_eq_any, Bool.or_eq_true, List.any_eq_true]
  exact .inr ⟨g, hg, h⟩

/-- The cursor of a nested instance owns what the instance owns. -/
theorem owns_node (g : Instance) (scene : Scene) :
    Cursor.owns ⟨g.state, g.children, scene⟩ = fun key => g.owns key := by
  cases g
  rfl

/-- A nested instance replaced by one that owns the same keys. -/
theorem owns_set {index : Nat} {g g' : Instance} (hg : c.children[index]? = some g)
    (h : ∀ key, g'.owns key = g.owns key) (scene : Scene) :
    Cursor.owns { c with children := c.children.set index g', scene } = c.owns := by
  funext key
  simp only [owns, Instance.owns, Instance.ownsAmong_set hg h]

/-- Putting a settled tree in place of a nested instance of a settled cursor. -/
theorem Settled.set (hc : c.Settled) (index : Nat) {g : Instance} (hg : g.Settled) :
    ∀ x ∈ c.children.set index g, x.Settled := fun x hx =>
  (List.mem_or_eq_of_mem_set hx).elim (hc x) fun h => h ▸ hg

/-- A run step that leaves fired keys alone: it keeps the instance's number and outbox and the
nested instances. -/
structure KeepsKeys (c c' : Cursor) : Prop where
  id : c'.self.id = c.self.id
  outbox : c'.self.outbox = c.self.outbox
  children : c'.children = c.children

theorem KeepsKeys.of_self {s : InstanceState} (hid : s.id = c.self.id)
    (hout : s.outbox = c.self.outbox) : KeepsKeys c { c with self := s } := ⟨hid, hout, rfl⟩

theorem KeepsKeys.of_scene (scene : Scene) : KeepsKeys c { c with scene } := ⟨rfl, rfl, rfl⟩

theorem KeepsKeys.owns {c' : Cursor} (h : KeepsKeys c c') : c'.owns = c.owns := by
  funext key
  simp only [Cursor.owns, Instance.owns, h.id, h.children]

end Cursor

/-! ## The tally of a run -/

/-- What a run from `c` to `c'` that recorded `new` did with fired keys, `extra` being the keys
it was given to handle. -/
structure Tally (extra : List HandlerKey) (c c' : Cursor) (new : List Event) : Prop where
  owns : c'.owns = c.owns
  settled : c'.Settled
  ran : ∀ k ∈ ranKeys new, c.owns k = true
  appended : ∃ app, c'.self.outbox = c.self.outbox ++ app ∧ (∀ k ∈ app, c.owns k = false) ∧
    (extra ++ handedKeys new).Perm (ranKeys new ++ app)

theorem List.perm_append_exchange {α : Type} (a b c d : List α) :
    ((a ++ b) ++ (c ++ d)).Perm ((a ++ c) ++ (b ++ d)) := by
  simp only [List.append_assoc]
  exact (List.perm_append_comm_assoc b c d).append_left a

namespace Tally

variable {E E₁ E₂ : List HandlerKey} {c c₁ c₂ : Cursor} {new new₁ new₂ : List Event}

/-- A step that leaves keys alone tallies nothing. -/
theorem keeps (h : Cursor.KeepsKeys c c₁) (hc : c.Settled) : Tally [] c c₁ [] where
  owns := h.owns
  settled := by
    intro g hg
    rw [h.children] at hg
    exact hc g hg
  ran := by simp
  appended := ⟨[], by rw [h.outbox, List.append_nil], by simp, by simp⟩

theorem trans (h₁ : Tally E₁ c c₁ new₁) (h₂ : Tally E₂ c₁ c₂ new₂) :
    Tally (E₁ ++ E₂) c c₂ (new₁ ++ new₂) := by
  obtain ⟨app₁, hout₁, hnot₁, hperm₁⟩ := h₁.appended
  obtain ⟨app₂, hout₂, hnot₂, hperm₂⟩ := h₂.appended
  refine ⟨h₂.owns.trans h₁.owns, h₂.settled, ?_, app₁ ++ app₂, ?_, ?_, ?_⟩
  · intro k hk
    rw [ranKeys_append, List.mem_append] at hk
    rcases hk with hk | hk
    · exact h₁.ran k hk
    · rw [← h₁.owns]
      exact h₂.ran k hk
  · rw [hout₂, hout₁, List.append_assoc]
  · intro k hk
    rcases List.mem_append.mp hk with hk | hk
    · exact hnot₁ k hk
    · rw [← h₁.owns]
      exact hnot₂ k hk
  · rw [handedKeys_append, ranKeys_append]
    calc List.Perm ((E₁ ++ E₂) ++ (handedKeys new₁ ++ handedKeys new₂))
          ((E₁ ++ handedKeys new₁) ++ (E₂ ++ handedKeys new₂)) := List.perm_append_exchange ..
      List.Perm _ ((ranKeys new₁ ++ app₁) ++ (ranKeys new₂ ++ app₂)) := hperm₁.append hperm₂
      List.Perm _ ((ranKeys new₁ ++ ranKeys new₂) ++ (app₁ ++ app₂)) := List.perm_append_exchange ..

theorem perm {E' : List HandlerKey} (hE : E.Perm E') (h : Tally E c c₁ new) : Tally E' c c₁ new := by
  obtain ⟨app, hout, hnot, hperm⟩ := h.appended
  exact ⟨h.owns, h.settled, h.ran, app, hout, hnot, (hE.append_right _).symm.trans hperm⟩

/-- Keys handed out before the run count as keys it was given. -/
theorem handed {ks : List HandlerKey} (h : Tally (E ++ ks) c c₁ new) :
    Tally E c c₁ (ks.map .handed ++ new) := by
  obtain ⟨app, hout, hnot, hperm⟩ := h.appended
  refine ⟨h.owns, h.settled, by simpa using h.ran, app, hout, hnot, ?_⟩
  simpa [List.append_assoc] using hperm

/-- A handler of the tree run before the run counts one more key given. -/
theorem ran_cons {k : HandlerKey} (hk : c.owns k = true) (h : Tally E c c₁ new) :
    Tally (k :: E) c c₁ ([.ran k] ++ new) := by
  obtain ⟨app, hout, hnot, hperm⟩ := h.appended
  refine ⟨h.owns, h.settled, ?_, app, hout, hnot, ?_⟩
  · intro k' hk'
    rw [ranKeys_append, ranKeys_ran, List.mem_append, List.mem_singleton] at hk'
    rcases hk' with rfl | hk'
    · exact hk
    · exact h.ran k' hk'
  · rw [handedKeys_append, handedKeys_ran, ranKeys_append, ranKeys_ran, List.nil_append]
    exact hperm.cons k

/-- A run from a cursor that differs from `c` only below the instance, in what it owns and in
its settled outboxes. -/
theorem of_start {c₀ : Cursor} (h : Tally E c₀ c₁ new) (howns : c₀.owns = c.owns)
    (hself : c₀.self = c.self) : Tally E c c₁ new := by
  obtain ⟨app, hout, hnot, hperm⟩ := h.appended
  refine ⟨h.owns.trans howns, h.settled, fun k hk => howns ▸ h.ran k hk, app, ?_,
    fun k hk => howns ▸ hnot k hk, hperm⟩
  rw [hout, hself]

/-- Work on nested instance `index`, then the routing of its outbox at this instance: the keys
the nested instance did not run and appended to its outbox are the keys the routing is given. -/
theorem nested {index : Nat} {g : Instance} (hg : c.children[index]? = some g)
    (hgs : g.Settled) (h₁ : Tally E ⟨g.state, g.children, c.scene⟩ c₁ new₁)
    (h₂ : Tally c₁.self.outbox
      { c with children := c.children.set index (.node c₁.self c₁.children), scene := c₁.scene }
      c₂ new₂) :
    Tally E c c₂ (new₁ ++ new₂) := by
  have hchild := Cursor.owns_node g c.scene
  have hsame : ∀ key, (Instance.node c₁.self c₁.children).owns key = g.owns key := fun key =>
    congrFun (h₁.owns.trans hchild) key
  -- the routing starts where the nested instance left off, with the same owners as `c`
  have h₂ := h₂.of_start (Cursor.owns_set hg hsame c₁.scene) rfl
  obtain ⟨app₁, hout₁, -, hperm₁⟩ := h₁.appended
  obtain ⟨app₂, hout₂, hnot₂, hperm₂⟩ := h₂.appended
  -- the nested instance started with an empty outbox, so it ends holding exactly `app₁`
  have hbox : c₁.self.outbox = app₁ := by
    rw [hout₁]
    simp [hgs.state.1]
  rw [hbox] at hperm₂
  refine ⟨h₂.owns, h₂.settled, ?_, app₂, hout₂, hnot₂, ?_⟩
  · intro k hk
    rw [ranKeys_append, List.mem_append] at hk
    rcases hk with hk | hk
    · have hgk : g.owns k = true := congrFun hchild k ▸ h₁.ran k hk
      exact Cursor.owns_of_mem (List.mem_of_getElem? hg) hgk
    · exact h₂.ran k hk
  · rw [handedKeys_append, ranKeys_append]
    calc List.Perm (E ++ (handedKeys new₁ ++ handedKeys new₂))
          ((E ++ handedKeys new₁) ++ handedKeys new₂) := .of_eq (List.append_assoc ..).symm
      List.Perm _ ((ranKeys new₁ ++ app₁) ++ handedKeys new₂) := hperm₁.append_right _
      List.Perm _ (ranKeys new₁ ++ (ranKeys new₂ ++ app₂)) := by
        rw [List.append_assoc]
        exact hperm₂.append_left _
      List.Perm _ ((ranKeys new₁ ++ ranKeys new₂) ++ app₂) := .of_eq (List.append_assoc ..).symm

end Tally

/-! ## Tallying operations -/

namespace Traced

variable {α β : Type}

/-- Every successful run of `t` from `c` tallies, `extra` being the keys `t` is given. -/
def TalliesFrom (extra : List HandlerKey) (t : Traced α) (c : Cursor) : Prop :=
  ∀ log v log' c', exec (t.run log) c = (.ok (v, log'), c') →
    ∃ new, log' = log ++ new ∧ Tally extra c c' new

/-- Every successful run of `t` from `c` tallies when the outboxes below the instance are
empty. -/
def Tallies (extra : List HandlerKey) (t : Traced α) (c : Cursor) : Prop :=
  c.Settled → TalliesFrom extra t c

/-- No run of the operation succeeds. -/
def Fails (t : Traced α) : Prop :=
  ∀ log c v log' c', exec (t.run log) c ≠ (.ok (v, log'), c')

theorem exec_run_bind_ok {t : Traced α} {f : α → Traced β} {log log' : List Event} {c c' : Cursor}
    {v : β} (h : exec ((t >>= f).run log) c = (.ok (v, log'), c')) :
    ∃ a l c₁, exec (t.run log) c = (.ok (a, l), c₁) ∧ exec ((f a).run l) c₁ = (.ok (v, log'), c') := by
  rw [StateT.run_bind] at h
  obtain ⟨⟨a, l⟩, c₁, h₁, h₂⟩ := Act.exec_bind_ok_inv h
  exact ⟨a, l, c₁, h₁, h₂⟩

theorem exec_lift_run_ok {a : Act α} {log log' : List Event} {c c' : Cursor} {v : α}
    (h : exec ((Traced.lift a).run log) c = (.ok (v, log'), c')) :
    log' = log ∧ exec a c = (.ok v, c') := by
  rw [exec_lift_run] at h
  obtain ⟨u, c₁, hu, hpure⟩ := Act.exec_bind_ok_inv h
  rw [exec_pure, Prod.mk.injEq, Except.ok.injEq, Prod.mk.injEq] at hpure
  obtain ⟨⟨rfl, rfl⟩, rfl⟩ := hpure
  exact ⟨rfl, hu⟩

/-- A run that starts with a plain step which succeeds goes on from where the step left, with
the same record. -/
theorem exec_lift_bind_run_ok {a : Act α} {f : α → Traced β} {log log' : List Event}
    {c c' : Cursor} {v : β} (h : exec ((Traced.lift a >>= f).run log) c = (.ok (v, log'), c')) :
    ∃ u c₁, exec a c = (.ok u, c₁) ∧ exec ((f u).run log) c₁ = (.ok (v, log'), c') := by
  obtain ⟨u, l, c₁, h₁, h₂⟩ := exec_run_bind_ok h
  obtain ⟨rfl, hu⟩ := exec_lift_run_ok h₁
  exact ⟨u, c₁, hu, h₂⟩

theorem exec_attempt_run_ok {t : Traced α} {log l : List Event} {c c' : Cursor} {a : α}
    (h : exec ((Traced.attempt t).run log) c = (.ok (.ok a, l), c')) :
    exec (t.run log) c = (.ok (a, l), c') := by
  unfold Traced.attempt at h
  unfold StateT.run at h ⊢
  rw [exec_bind, exec_attempt] at h
  revert h
  rcases exec (t log) c with ⟨r, c₁⟩
  rcases r with e | ⟨a', l'⟩
  · intro h
    cases h
  · intro h
    cases h
    rfl

namespace Fails

theorem lift {a : Act α} (ha : ∀ c, ∃ e c', exec a c = (.error e, c')) : Fails (Traced.lift a) := by
  intro log c v log' c' h
  obtain ⟨-, hok⟩ := exec_lift_run_ok h
  obtain ⟨e, c₁, herr⟩ := ha c
  rw [herr] at hok
  cases hok

theorem lift_throw (e : InstanceError) : Fails (Traced.lift (throw e : Act α)) :=
  lift fun c => ⟨e, c, rfl⟩

theorem lift_tooDeep : Fails (Traced.lift Act.tooDeep) :=
  lift fun c => ⟨_, c, rfl⟩

theorem bind {t : Traced α} {f : α → Traced β} (hf : ∀ v, Fails (f v)) : Fails (t >>= f) := by
  intro log c v log' c' h
  obtain ⟨a, l, c₁, -, h₂⟩ := exec_run_bind_ok h
  exact hf a l c₁ v log' c' h₂

end Fails

namespace TalliesFrom

variable {E : List HandlerKey} {c : Cursor}

theorem bind_get {f : Cursor → Traced β} (h : TalliesFrom E (f c) c) :
    TalliesFrom E (Traced.lift (get : Act Cursor) >>= f) c := by
  intro log v log' c' hrun
  obtain ⟨u, c₁, hget, hrest⟩ := exec_lift_bind_run_ok hrun
  cases hget
  exact h log v log' c' hrest

/-- Moving to a cursor that differs from `c` only below the instance, in what it owns and in its
nested outboxes, which it has all empty. -/
theorem set_bind {c₀ : Cursor} {t : Traced α} (h : Tallies E t c₀) (hc₀ : c₀.Settled)
    (howns : c₀.owns = c.owns) (hself : c₀.self = c.self) :
    TalliesFrom E (Traced.lift (set c₀ : Act PUnit) >>= fun _ => t) c := by
  intro log v log' c' hrun
  obtain ⟨u, c₁, hset, hrest⟩ := exec_lift_bind_run_ok hrun
  cases hset
  obtain ⟨new, rfl, htally⟩ := h hc₀ log v log' c' hrest
  exact ⟨new, rfl, htally.of_start howns hself⟩

end TalliesFrom

namespace Tallies

variable {E E₁ E₂ : List HandlerKey} {c : Cursor}

theorem of_fails {t : Traced α} (h : Fails t) : Tallies E t c :=
  fun _ log v log' c' hrun => absurd hrun (h log c v log' c')

theorem perm {E' : List HandlerKey} {t : Traced α} (hE : E.Perm E') (h : Tallies E t c) :
    Tallies E' t c := by
  intro hc log v log' c' hrun
  obtain ⟨new, hlog, htally⟩ := h hc log v log' c' hrun
  exact ⟨new, hlog, htally.perm hE⟩

theorem pure (v : α) : Tallies [] (Pure.pure v : Traced α) c := by
  intro hc log v' log' c' hrun
  cases hrun
  exact ⟨[], (List.append_nil _).symm, .keeps ⟨rfl, rfl, rfl⟩ hc⟩

/-- A step that leaves keys alone. -/
theorem lift {a : Act α} (ha : Cursor.KeepsKeys c (exec a c).2) : Tallies [] (Traced.lift a) c := by
  intro hc log v log' c' hrun
  obtain ⟨rfl, hok⟩ := exec_lift_run_ok hrun
  rw [hok] at ha
  exact ⟨[], (List.append_nil _).symm, .keeps ha hc⟩

theorem bind {t : Traced α} {f : α → Traced β} (ht : Tallies E₁ t c)
    (hf : ∀ v c₁, Tallies E₂ (f v) c₁) : Tallies (E₁ ++ E₂) (t >>= f) c := by
  intro hc log v log' c' hrun
  obtain ⟨a, l, c₁, h₁, h₂⟩ := exec_run_bind_ok hrun
  obtain ⟨new₁, rfl, t₁⟩ := ht hc log a l c₁ h₁
  obtain ⟨new₂, rfl, t₂⟩ := hf a c₁ t₁.settled _ v log' c' h₂
  exact ⟨new₁ ++ new₂, List.append_assoc .., t₁.trans t₂⟩

theorem bind_get {f : Cursor → Traced β} (h : Tallies E (f c) c) :
    Tallies E (Traced.lift (get : Act Cursor) >>= f) c :=
  fun hc => TalliesFrom.bind_get (h hc)

theorem bind_self {f : InstanceState → Traced β} (h : Tallies E (f c.self) c) :
    Tallies E (Traced.lift Act.self >>= f) c := by
  intro hc log v log' c' hrun
  obtain ⟨u, c₁, hself, hrest⟩ := exec_lift_bind_run_ok hrun
  cases hself
  exact h hc log v log' c' hrest

theorem ite {p : Prop} [Decidable p] {t t' : Traced α} (ht : Tallies E t c) (ht' : Tallies E t' c) :
    Tallies E (if p then t else t') c := by
  split
  · exact ht
  · exact ht'

/-- Handing out the host's keys: they join the keys the rest of the run is given. -/
theorem handed_bind {ks : List HandlerKey} {t : Traced α} (h : Tallies (E ++ ks) t c) :
    Tallies E (Traced.record (ks.map .handed) >>= fun _ => t) c := by
  intro hc log v log' c' hrun
  have hrec : exec ((Traced.record (ks.map .handed) >>= fun _ => t).run log) c =
      exec (t.run (log ++ ks.map .handed)) c := rfl
  rw [hrec] at hrun
  obtain ⟨new, rfl, htally⟩ := h hc _ v log' c' hrun
  exact ⟨ks.map .handed ++ new, List.append_assoc .., htally.handed⟩

/-- Running the handler of a key of the tree: the key is handled. -/
theorem ran_bind {k : HandlerKey} {t : Traced α} (hk : c.owns k = true) (h : Tallies E t c) :
    Tallies (k :: E) (Traced.record [.ran k] >>= fun _ => t) c := by
  intro hc log v log' c' hrun
  have hrec : exec ((Traced.record [.ran k] >>= fun _ => t).run log) c =
      exec (t.run (log ++ [.ran k])) c := rfl
  rw [hrec] at hrun
  obtain ⟨new, rfl, htally⟩ := h hc _ v log' c' hrun
  exact ⟨[.ran k] ++ new, List.append_assoc .., htally.ran_cons hk⟩

/-- A key that no instance of the tree owns goes to the outbox. -/
theorem toOutbox {k : HandlerKey} (hk : c.owns k = false) :
    Tallies [k] (Traced.lift (Act.modifySelf fun s => { s with outbox := s.outbox ++ [k] })) c := by
  intro hc log v log' c' hrun
  obtain ⟨rfl, hok⟩ := exec_lift_run_ok hrun
  cases hok
  refine ⟨[], (List.append_nil _).symm, ?_⟩
  refine ⟨?_, fun g hg => hc g hg, by simp, [k], rfl, by simpa using hk, by simp⟩
  funext key
  simp only [Cursor.owns, Instance.owns]

/-- Routing each of a list of keys: the list is what the loop is given. -/
theorem forIn_keys {t : HandlerKey → Traced Unit} (ht : ∀ k c, Tallies [k] (t k) c)
    (keys : List HandlerKey) (c : Cursor) :
    Tallies keys (ForIn.forIn keys PUnit.unit fun k _ =>
      t k >>= fun _ => Pure.pure (ForInStep.yield PUnit.unit)) c := by
  induction keys generalizing c with
  | nil => exact pure _
  | cons k keys ih =>
    -- the body always yields, so the loop goes on with the rest of the keys
    rw [List.forIn_cons, bind_assoc]
    simp only [pure_bind]
    exact bind (ht k c) fun _ c₁ => ih c₁

/-- Work on a nested instance, then the routing of its outbox: the work's tally is the pair's. -/
theorem onChild_collect {index : Nat} {g : Instance} {t collect : Traced Unit}
    (hg : c.children[index]? = some g) (ht : Tallies E t ⟨g.state, g.children, c.scene⟩)
    (hcollect : ∀ c₁ s gs, c₁.children[index]? = some (.node s gs) →
      Cursor.Settled { c₁ with children := c₁.children.set index (.node { s with outbox := [] } gs) } →
      TalliesFrom s.outbox collect c₁) :
    Tallies E (Traced.onChild index t >>= fun _ => collect) c := by
  intro hc log v log' c' hrun
  obtain ⟨⟨⟩, l₁, p₁, hon, hcol⟩ := exec_run_bind_ok hrun
  rw [exec_tracedOnChild_some hg] at hon
  have hgs : g.Settled := hc g (List.mem_of_getElem? hg)
  revert hon
  rcases hch : exec (t.run log) ⟨g.state, g.children, c.scene⟩ with ⟨r, c₁⟩
  intro hon
  rw [Prod.mk.injEq] at hon
  obtain ⟨rfl, hp₁⟩ := hon
  obtain ⟨new₁, rfl, h₁⟩ := ht hgs.state.2 log () _ c₁ hch
  have hlen : index < c.children.length := (List.getElem?_eq_some_iff.mp hg).1
  have hidx : p₁.children[index]? = some (.node c₁.self c₁.children) := by
    rw [← hp₁]
    exact List.getElem?_set_self hlen
  -- emptying the nested outbox leaves every nested instance settled
  have hsettled : Cursor.Settled { p₁ with
      children := p₁.children.set index (.node { c₁.self with outbox := [] } c₁.children) } := by
    intro x hx
    rw [← hp₁] at hx
    dsimp only at hx
    rw [List.set_set] at hx
    exact Cursor.Settled.set hc index (.node rfl h₁.settled) x hx
  obtain ⟨new₂, rfl, h₂⟩ := hcollect p₁ c₁.self c₁.children hidx hsettled _ v log' c' hcol
  rw [← hp₁] at h₂
  exact ⟨new₁ ++ new₂, List.append_assoc .., h₁.nested hg hgs h₂⟩

/-- Catching a failure and passing it on: a run that succeeds caught none. -/
theorem attempt_bind {t : Traced α} {k : Except InstanceError α → Traced β} (ht : Tallies E₁ t c)
    (hok : ∀ v c₁, Tallies E₂ (k (.ok v)) c₁) (herr : ∀ e, Fails (k (.error e))) :
    Tallies (E₁ ++ E₂) (Traced.attempt t >>= k) c := by
  intro hc log v log' c' hrun
  obtain ⟨r, l, c₁, h₁, h₂⟩ := exec_run_bind_ok hrun
  cases r with
  | error e => exact absurd h₂ (herr e l c₁ v log' c')
  | ok a =>
    obtain ⟨new₁, rfl, t₁⟩ := ht hc log a l c₁ (exec_attempt_run_ok h₁)
    obtain ⟨new₂, rfl, t₂⟩ := hok a c₁ t₁.settled _ v log' c' h₂
    exact ⟨new₁ ++ new₂, List.append_assoc .., t₁.trans t₂⟩

end Tallies

end Traced

end Reactive
