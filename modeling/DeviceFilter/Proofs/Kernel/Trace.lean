import DeviceFilter.Kernel.Attached
import DeviceFilter.Kernel.DecodedProgram
import DeviceFilter.Process
import DeviceFilter.Proofs.Counted
import Mathlib.Algebra.Group.Pi.Basic
import Mathlib.Algebra.Ring.Nat

/-!
Recorded kernels. A kernel on a state may answer every call as it likes; recorded, it answers the
same and keeps its calls with their replies in order. Nothing is assumed about the replies.
-/
set_option autoImplicit false

namespace DeviceFilter

/-- A call to the kernel and its reply. -/
inductive KernelRecord (Handle Cgroup : Type) where
  | openCgroup (path : Path) (reply : Except SystemError Cgroup)
  | query (cgroup : Cgroup) (capacity : Nat) (reply : Except QueryError QueryReply)
  | openProgram (id : UInt32) (reply : Except SystemError Handle)
  | info (handle : Handle) (generation : Generation) (buffers : InfoBuffers)
      (reply : Except SystemError InfoReply)
  | load (instructions : Program) (license name : String) (reply : Except SystemError Handle)
  | attach (handle : Handle) (cgroup : Cgroup) (flags : UInt32) (reply : Except SystemError Unit)
  | detach (handle : Handle) (cgroup : Cgroup) (reply : Except SystemError Unit)
  | raiseMemlock (reply : Except SystemError Unit)

abbrev Trace (Handle Cgroup : Type) := List (KernelRecord Handle Cgroup)

section
variable {Handle Cgroup : Type}

namespace KernelRecord

/-- In an application, preparing calls come first, then loads, detachments and attachments. -/
def phase : KernelRecord Handle Cgroup → Nat
  | load .. => 1
  | detach .. => 2
  | attach .. => 3
  | _ => 0

end KernelRecord

namespace Trace

/-- The programs that could be opened, in order. -/
def opened (t : Trace Handle Cgroup) : List (Attached Handle) :=
  t.filterMap fun
    | .openProgram id (.ok handle) => some ⟨id, handle⟩
    | _ => none

/-- The programs that were loaded, in order. -/
def loaded (t : Trace Handle Cgroup) : List Handle :=
  t.filterMap fun
    | .load _ _ _ (.ok handle) => some handle
    | _ => none

/-- The programs that were detached, in order. -/
def detached (t : Trace Handle Cgroup) : List Handle :=
  t.filterMap fun
    | .detach handle _ (.ok _) => some handle
    | _ => none

variable (t u : Trace Handle Cgroup)

@[simp] theorem opened_nil : opened ([] : Trace Handle Cgroup) = [] := rfl

@[simp] theorem opened_openCgroup (path : Path) (reply : Except SystemError Cgroup) :
    opened [(.openCgroup path reply : KernelRecord Handle Cgroup)] = [] := rfl

@[simp] theorem opened_append : opened (t ++ u) = opened t ++ opened u := List.filterMap_append

@[simp] theorem loaded_append : loaded (t ++ u) = loaded t ++ loaded u := List.filterMap_append

@[simp] theorem detached_append : detached (t ++ u) = detached t ++ detached u := List.filterMap_append

end Trace

end

/-! ## Recording -/

section
variable {σ ρ Handle Cgroup : Type}

/-- An action that is recorded with its reply. -/
def recording (record : ρ → KernelRecord Handle Cgroup) (action : StateM σ ρ) :
    StateM (Trace Handle Cgroup × σ) ρ :=
  fun (t, s) => ((action s).1, t ++ [record (action s).1], (action s).2)

/-- An action that is no call to the kernel. -/
def unrecorded (action : StateM σ ρ) : StateM (Trace Handle Cgroup × σ) ρ :=
  fun (t, s) => ((action s).1, t, (action s).2)

def Kernel.recorded (k : Kernel (StateM σ) Handle Cgroup) :
    Kernel (StateM (Trace Handle Cgroup × σ)) Handle Cgroup where
  openCgroup path := recording (.openCgroup path) (k.openCgroup path)
  query cgroup capacity := recording (.query cgroup capacity) (k.query cgroup capacity)
  openProgram id := recording (.openProgram id) (k.openProgram id)
  info handle generation buffers :=
    recording (.info handle generation buffers) (k.info handle generation buffers)
  load instructions license name :=
    recording (.load instructions license name) (k.load instructions license name)
  attach handle cgroup flags :=
    recording (.attach handle cgroup flags) (k.attach handle cgroup flags)
  detach handle cgroup := recording (.detach handle cgroup) (k.detach handle cgroup)
  raiseMemlock := recording .raiseMemlock k.raiseMemlock

def ProcessTable.unrecorded (processes : ProcessTable (StateM σ)) :
    ProcessTable (StateM (Trace Handle Cgroup × σ)) where
  current := processes.current
  parentOf pid := DeviceFilter.unrecorded (processes.parentOf pid)
  nameOf pid := DeviceFilter.unrecorded (processes.nameOf pid)

end

/-! ## What a computation records

A computation is run twice, with the kernel as it is and with the recorded one. Every rule below
speaks about both runs, so that what is shown of the recorded calls holds of the first run too. -/

section
variable {σ ε α β Handle Cgroup : Type}

/-- Whatever was recorded before, `x` does what `y` does and adds calls that are, with the result,
as `post` says. -/
def Records (x : StateM (Trace Handle Cgroup × σ) α) (y : StateM σ α)
    (post : α → Trace Handle Cgroup → Prop) : Prop :=
  ∀ t s, ∃ added, x (t, s) = ((y s).1, t ++ added, (y s).2) ∧ post (y s).1 added

theorem Records.pure {post : α → Trace Handle Cgroup → Prop} {a : α} (h : post a []) :
    Records (Pure.pure a : StateM (Trace Handle Cgroup × σ) α) (Pure.pure a) post :=
  fun t s => ⟨[], by rw [List.append_nil]; rfl, h⟩

theorem Records.bind {x : StateM (Trace Handle Cgroup × σ) α} {y : StateM σ α}
    {f : α → StateM (Trace Handle Cgroup × σ) β} {g : α → StateM σ β}
    {mid : α → Trace Handle Cgroup → Prop} {post : β → Trace Handle Cgroup → Prop}
    (hx : Records x y mid)
    (hf : ∀ a t, mid a t → Records (f a) (g a) fun b u => post b (t ++ u)) :
    Records (x >>= f) (y >>= g) post := by
  intro t s
  obtain ⟨added, hrun, hmid⟩ := hx t s
  obtain ⟨more, hrun', hpost⟩ := hf (y s).1 added hmid (t ++ added) (y s).2
  refine ⟨added ++ more, ?_, hpost⟩
  rw [← List.append_assoc]
  change f (x (t, s)).1 (x (t, s)).2 = _
  rw [hrun]
  exact hrun'

theorem Records.ite {p : Prop} [Decidable p] {x x' : StateM (Trace Handle Cgroup × σ) α}
    {y y' : StateM σ α} {post : α → Trace Handle Cgroup → Prop} (hx : Records x y post)
    (hx' : Records x' y' post) :
    Records (if p then x else x') (if p then y else y') post := by
  split
  · exact hx
  · exact hx'

theorem records_recording (record : α → KernelRecord Handle Cgroup) (action : StateM σ α) :
    Records (recording record action) action fun reply t => t = [record reply] :=
  fun _ s => ⟨[record (action s).1], rfl, rfl⟩

theorem records_unrecorded (action : StateM σ α) :
    Records (unrecorded action : StateM (Trace Handle Cgroup × σ) α) action fun _ t => t = [] :=
  fun _ _ => ⟨[], by rw [List.append_nil]; rfl, rfl⟩

/-- The same for computations that count and may fail, with how far each counter moves. -/
def CountedRecords (x : Counted ε (StateM (Trace Handle Cgroup × σ)) α)
    (y : Counted ε (StateM σ) α)
    (post : Except ε α → Trace Handle Cgroup → (Counter → Nat) → Prop) : Prop :=
  ∀ μ t s r μ' s', y.exec μ s = (r, μ', s') →
    ∃ added moved, x.exec μ (t, s) = (r, μ', t ++ added, s') ∧
      (∀ c, μ'.count c = μ.count c + moved c) ∧ post r added moved

namespace CountedRecords

variable {δ : Type} {post : Except ε α → Trace Handle Cgroup → (Counter → Nat) → Prop}
variable {next : Except ε β → Trace Handle Cgroup → (Counter → Nat) → Prop}
variable {x : Counted ε (StateM (Trace Handle Cgroup × σ)) α} {y : Counted ε (StateM σ) α}

theorem mono {weaker : Except ε α → Trace Handle Cgroup → (Counter → Nat) → Prop}
    (hx : CountedRecords x y post) (h : ∀ r t moved, post r t moved → weaker r t moved) :
    CountedRecords x y weaker := by
  intro μ t s r μ' s' hy
  obtain ⟨added, moved, hrun, hmoved, hpost⟩ := hx μ t s r μ' s' hy
  exact ⟨added, moved, hrun, hmoved, h r added moved hpost⟩

/-- A computation that neither calls nor counts. -/
theorem mk_return {r : Except ε α} (h : post r [] 0) :
    CountedRecords (ExceptT.mk (return r) : Counted ε (StateM (Trace Handle Cgroup × σ)) α)
      (ExceptT.mk (return r)) post := by
  intro μ t s r' μ' s' hy
  cases hy
  exact ⟨[], 0, by rw [List.append_nil]; rfl, fun _ => rfl, h⟩

theorem pure {a : α} (h : post (.ok a) [] 0) :
    CountedRecords (Pure.pure a : Counted ε (StateM (Trace Handle Cgroup × σ)) α) (Pure.pure a)
      post := mk_return h

theorem throw {e : ε} (h : post (.error e) [] 0) :
    CountedRecords (MonadExcept.throw e : Counted ε (StateM (Trace Handle Cgroup × σ)) α)
      (MonadExcept.throw e) post := mk_return h

theorem count {post : Except ε Unit → Trace Handle Cgroup → (Counter → Nat) → Prop}
    {c : Counter} {n : Nat} (h : post (.ok ()) [] (Pi.single c n)) :
    CountedRecords (Counted.count c n : Counted ε (StateM (Trace Handle Cgroup × σ)) Unit)
      (Counted.count c n) post := by
  intro μ t s r μ' s' hy
  cases hy
  refine ⟨[], Pi.single c n, by rw [List.append_nil]; rfl, fun d => ?_, h⟩
  refine (Metrics.count_add μ c d n).trans ?_
  rw [Pi.single_apply]
  split
  · rename_i heq
    rw [heq]
  · rfl

theorem bind {f : α → Counted ε (StateM (Trace Handle Cgroup × σ)) β}
    {g : α → Counted ε (StateM σ) β} (hx : CountedRecords x y post)
    (herror : ∀ e t moved, post (.error e) t moved → next (.error e) t moved)
    (hok : ∀ a t moved, post (.ok a) t moved →
      CountedRecords (f a) (g a) fun r u more => next r (t ++ u) (moved + more)) :
    CountedRecords (x >>= f) (y >>= g) next := by
  intro μ t s r μ' s' hy
  rw [Counted.exec_bind] at hy
  obtain ⟨q, ν, u, hq⟩ : ∃ q ν u, y.exec μ s = (q, ν, u) := ⟨_, _, _, rfl⟩
  obtain ⟨added, moved, hrun, hmoved, hpost⟩ := hx μ t s q ν u hq
  rw [hq] at hy
  cases q with
  | error e =>
    cases hy
    refine ⟨added, moved, ?_, hmoved, herror e added moved hpost⟩
    rw [Counted.exec_bind, hrun]
  | ok a =>
    obtain ⟨more, moved', hrun', hmoved', hnext⟩ :=
      hok a added moved hpost ν (t ++ added) u r μ' s' hy
    refine ⟨added ++ more, moved + moved', ?_, fun c => ?_, hnext⟩
    · rw [Counted.exec_bind, hrun, ← List.append_assoc]
      exact hrun'
    · rw [hmoved', hmoved, Pi.add_apply, Nat.add_assoc]

/-- Counting, and what follows it. -/
theorem count_bind {c : Counter} {n : Nat}
    {f : Unit → Counted ε (StateM (Trace Handle Cgroup × σ)) β}
    {g : Unit → Counted ε (StateM σ) β}
    (hf : CountedRecords (f ()) (g ()) fun r t moved => next r t (Pi.single c n + moved)) :
    CountedRecords (Counted.count c n >>= f) (Counted.count c n >>= g) next := by
  have hcount : CountedRecords
      (Counted.count c n : Counted ε (StateM (Trace Handle Cgroup × σ)) Unit) (Counted.count c n)
      fun r t moved => r = .ok () ∧ t = [] ∧ moved = Pi.single c n := .count ⟨rfl, rfl, rfl⟩
  refine hcount.bind (fun _ _ _ h => nomatch h.1) ?_
  rintro _ t _ ⟨-, rfl, rfl⟩
  exact hf

theorem ite {p : Prop} [Decidable p] {x' : Counted ε (StateM (Trace Handle Cgroup × σ)) α}
    {y' : Counted ε (StateM σ) α} (hx : CountedRecords x y post) (hx' : CountedRecords x' y' post) :
    CountedRecords (if p then x else x') (if p then y else y') post := by
  split
  · exact hx
  · exact hx'

theorem lift {x : StateM (Trace Handle Cgroup × σ) α} {y : StateM σ α}
    {mid : α → Trace Handle Cgroup → Prop} (hx : Records x y mid)
    (h : ∀ a t, mid a t → post (.ok a) t 0) :
    CountedRecords (liftM x : Counted ε (StateM (Trace Handle Cgroup × σ)) α) (liftM y) post := by
  intro μ t s r μ' s' hy
  obtain ⟨added, hrun, hmid⟩ := hx t s
  cases hy
  refine ⟨added, 0, ?_, fun _ => rfl, h _ added hmid⟩
  rw [Counted.exec_lift, hrun]
  rfl

theorem ofExceptWith {f : δ → ε} {x : StateM (Trace Handle Cgroup × σ) (Except δ α)}
    {y : StateM σ (Except δ α)} {mid : Except δ α → Trace Handle Cgroup → Prop}
    (hx : Records x y mid) (h : ∀ r t, mid r t → post (r.mapError f) t 0) :
    CountedRecords (Counted.ofExceptWith f x) (Counted.ofExceptWith f y) post := by
  intro μ t s r μ' s' hy
  obtain ⟨added, hrun, hmid⟩ := hx t s
  cases hy
  refine ⟨added, 0, ?_, fun _ => rfl, h _ added hmid⟩
  rw [Counted.exec_ofExceptWith, hrun]
  rfl

theorem ofExcept {x : StateM (Trace Handle Cgroup × σ) (Except ε α)} {y : StateM σ (Except ε α)}
    {mid : Except ε α → Trace Handle Cgroup → Prop} (hx : Records x y mid)
    (h : ∀ r t, mid r t → post r t 0) :
    CountedRecords (Counted.ofExcept x) (Counted.ofExcept y) post := by
  intro μ t s r μ' s' hy
  obtain ⟨added, hrun, hmid⟩ := hx t s
  cases hy
  refine ⟨added, 0, ?_, fun _ => rfl, h _ added hmid⟩
  rw [Counted.exec_ofExcept, hrun]
  rfl

/-- Calls that cannot fail the computation, and what follows them. -/
theorem lift_bind {x : StateM (Trace Handle Cgroup × σ) α} {y : StateM σ α}
    {f : α → Counted ε (StateM (Trace Handle Cgroup × σ)) β} {g : α → Counted ε (StateM σ) β}
    {mid : α → Trace Handle Cgroup → Prop} (hx : Records x y mid)
    (hf : ∀ a t, mid a t → CountedRecords (f a) (g a) fun r u moved => next r (t ++ u) moved) :
    CountedRecords (liftM x >>= f) (liftM y >>= g) next := by
  have hlift : CountedRecords (liftM x : Counted ε (StateM (Trace Handle Cgroup × σ)) α) (liftM y)
      fun r t moved => (∃ a, r = .ok a ∧ mid a t) ∧ moved = 0 :=
    .lift hx fun a t ht => ⟨⟨a, rfl, ht⟩, rfl⟩
  refine hlift.bind ?_ ?_
  · rintro e t _ ⟨⟨a, hr, -⟩, -⟩
    cases hr
  · rintro a t _ ⟨⟨_, hr, ht⟩, rfl⟩
    cases hr
    refine (hf a t ht).mono fun r u moved h => ?_
    rwa [zero_add]

/-- Calls whose failure fails the computation, and what follows them. -/
theorem ofExceptWith_bind {e : δ → ε} {x : StateM (Trace Handle Cgroup × σ) (Except δ α)}
    {y : StateM σ (Except δ α)} {f : α → Counted ε (StateM (Trace Handle Cgroup × σ)) β}
    {g : α → Counted ε (StateM σ) β} {mid : Except δ α → Trace Handle Cgroup → Prop}
    (hx : Records x y mid) (herror : ∀ cause t, mid (.error cause) t → next (.error (e cause)) t 0)
    (hok : ∀ a t, mid (.ok a) t →
      CountedRecords (f a) (g a) fun r u moved => next r (t ++ u) moved) :
    CountedRecords (Counted.ofExceptWith e x >>= f) (Counted.ofExceptWith e y >>= g) next := by
  have hcall : CountedRecords (Counted.ofExceptWith e x) (Counted.ofExceptWith e y)
      fun r t moved => (∃ reply, r = reply.mapError e ∧ mid reply t) ∧ moved = 0 :=
    .ofExceptWith hx fun reply t ht => ⟨⟨reply, rfl, ht⟩, rfl⟩
  refine hcall.bind ?_ ?_
  · rintro _ t _ ⟨⟨cause | a, hr, ht⟩, rfl⟩
    · cases hr
      exact herror cause t ht
    · cases hr
  · rintro a t _ ⟨⟨cause | _, hr, ht⟩, rfl⟩
    · cases hr
    · cases hr
      refine (hok a t ht).mono fun r u moved h => ?_
      rwa [zero_add]

theorem adapt {f : δ → ε} {x : Counted δ (StateM (Trace Handle Cgroup × σ)) α}
    {y : Counted δ (StateM σ) α}
    {mid : Except δ α → Trace Handle Cgroup → (Counter → Nat) → Prop}
    (hx : CountedRecords x y mid) (h : ∀ r t moved, mid r t moved → post (r.mapError f) t moved) :
    CountedRecords (x.adapt f) (y.adapt f) post := by
  intro μ t s r μ' s' hy
  obtain ⟨q, ν, u, hq⟩ : ∃ q ν u, y.exec μ s = (q, ν, u) := ⟨_, _, _, rfl⟩
  obtain ⟨added, moved, hrun, hmoved, hmid⟩ := hx μ t s q ν u hq
  replace hy := (Counted.exec_adapt μ s f y).symm.trans hy
  rw [hq] at hy
  cases hy
  refine ⟨added, moved, ?_, hmoved, h q added moved hmid⟩
  refine (Counted.exec_adapt μ (t, s) f x).trans ?_
  rw [hrun]

/-- A computation whose result is counted, by a counter that depends on it. -/
theorem counted_result {c : Except ε α → Counter} (hx : CountedRecords x y post) :
    CountedRecords
      (ExceptT.mk do
        let r ← x.run
        modify (·.add (c r) 1)
        return r)
      (ExceptT.mk do
        let r ← y.run
        modify (·.add (c r) 1)
        return r)
      fun r t moved => ∃ before, post r t before ∧ moved = before + Pi.single (c r) 1 := by
  intro μ t s r μ' s' hy
  obtain ⟨q, ν, u, hq⟩ : ∃ q ν u, y.exec μ s = (q, ν, u) := ⟨_, _, _, rfl⟩
  obtain ⟨added, moved, hrun, hmoved, hpost⟩ := hx μ t s q ν u hq
  replace hy := (Counted.exec_counted_result μ s c y).symm.trans hy
  rw [hq] at hy
  cases hy
  refine ⟨added, moved + Pi.single (c q) 1, ?_, fun d => ?_, moved, hpost, rfl⟩
  · refine (Counted.exec_counted_result μ (t, s) c x).trans ?_
    rw [hrun]
  · rw [Metrics.count_add, Pi.add_apply, Pi.single_apply]
    split
    · rename_i heq
      rw [heq, hmoved, Nat.add_assoc]
    · rw [hmoved, Nat.add_zero]

end CountedRecords

end

end DeviceFilter
