import DeviceFilter.Proofs.Kernel.Introspection
import DeviceFilter.Proofs.Kernel.Listing
import DeviceFilter.Proofs.Manager.Phases

/-!
Finding and reading the programs of a cgroup, whatever the kernel replies. The programs that are
listed are read back in order, up to the first that cannot be read.
-/
set_option autoImplicit false

namespace DeviceFilter

/-- Calls that change nothing. -/
def KernelRecord.asks {Handle Cgroup : Type} : KernelRecord Handle Cgroup → Bool
  | load .. => false
  | attach .. => false
  | detach .. => false
  | raiseMemlock _ => false
  | _ => true

/-- A program that was to be read back, with the replies. -/
structure Reading (Handle : Type) where
  handle : Handle
  first : Except SystemError InfoReply
  second : Except SystemError InfoReply

namespace Reading

variable {Handle Cgroup : Type}

def calls (generation : Generation) (x : Reading Handle) : Trace Handle Cgroup :=
  Kernel.infoCalls x.handle generation x.first x.second

def decoded (otherLicense : String) (x : Reading Handle) : Except BpfError DecodedProgram :=
  Kernel.introspected otherLicense x.first x.second

theorem asks_of_mem_calls {generation : Generation} {x : Reading Handle}
    {c : KernelRecord Handle Cgroup} (h : c ∈ x.calls generation) : c.asks := by
  obtain ⟨handle, cause | sized, second⟩ := x
  · rw [List.mem_singleton.mp h]
    rfl
  · rcases List.mem_pair.mp h with rfl | rfl
    · rfl
    · rfl

end Reading

/-! ## Reading one after another -/

section
variable {Handle α : Type}

/-- What is made of programs that are read, each in its place; or the first failure, after which no
further program is read. -/
inductive Reads (result : Reading Handle → Except FilterError α)
    (attached : List (Attached Handle)) : Except FilterError (List α) → List (Reading Handle) → Prop
  | complete {xs : List (Reading Handle)} {results : List α}
      (hhandles : xs.map (·.handle) = attached.map (·.handle))
      (h : xs.map result = results.map .ok) : Reads result attached (.ok results) xs
  | failed {before : List (Reading Handle)} {x : Reading Handle} {results : List α}
      {e : FilterError}
      (hhandles : before.map (·.handle) ++ [x.handle] <+: attached.map (·.handle))
      (h : before.map result = results.map .ok) (he : result x = .error e) :
      Reads result attached (.error e) (before ++ [x])

variable {result : Reading Handle → Except FilterError α} {old : Attached Handle}
variable {rest : List (Attached Handle)} {x : Reading Handle} {xs : List (Reading Handle)}
variable {r : Except FilterError (List α)}

theorem Reads.nil : Reads result [] (.ok []) [] := .complete rfl rfl

theorem Reads.stop {e : FilterError} (hx : x.handle = old.handle) (he : result x = .error e) :
    Reads result (old :: rest) (.error e) [x] := by
  have hnone : ([] : List (Reading Handle)).map result = ([] : List α).map .ok := rfl
  refine .failed ⟨rest.map (·.handle), ?_⟩ hnone he
  rw [hx]
  rfl

theorem Reads.next {a : α} (hx : x.handle = old.handle) (ha : result x = .ok a)
    (h : Reads result rest r xs) : Reads result (old :: rest) (r.map (a :: ·)) (x :: xs) := by
  cases h with
  | complete hhandles h =>
    exact .complete (congrArg₂ List.cons hx hhandles) (congrArg₂ List.cons ha h)
  | @failed before y results e hhandles h he =>
    have hresults : (x :: before).map result = (a :: results).map .ok := congrArg₂ List.cons ha h
    refine .failed ?_ hresults he
    rw [List.map_cons, List.map_cons, hx]
    exact (List.prefix_cons_inj old.handle).mpr hhandles

end

namespace Manager

variable {σ Handle Cgroup : Type} (manager : Manager (StateM σ) Handle Cgroup)

/-! ## Finding -/

/-- The calls that find the programs of a cgroup, by how far they get. -/
inductive Finds (path : Path) :
    Except FilterError (Cgroup × List (Attached Handle)) → Trace Handle Cgroup → Prop
  | unopened (cause : SystemError) :
      Finds path (.error (.openCgroup path cause)) [.openCgroup path (.error cause)]
  | unlisted (cgroup : Cgroup) {found : Except BpfError (List UInt32)} {ls : List Listing}
      {os : List (Opening Handle)} {e : BpfError}
      (hls : Kernel.Enumerates Kernel.queryAttempts Kernel.firstCapacity found ls)
      (hos : Kernel.Lists found (.error e) os) :
      Finds path (.error (.bpf e))
        (.openCgroup path (.ok cgroup) :: (ls.map (·.record cgroup) ++ os.map (·.record)))
  | listed (cgroup : Cgroup) {found : Except BpfError (List UInt32)} {ls : List Listing}
      {os : List (Opening Handle)} {attached : List (Attached Handle)}
      (hls : Kernel.Enumerates Kernel.queryAttempts Kernel.firstCapacity found ls)
      (hos : Kernel.Lists found (.ok attached) os) :
      Finds path (.ok (cgroup, attached))
        (.openCgroup path (.ok cgroup) :: (ls.map (·.record cgroup) ++ os.map (·.record)))

theorem asks_of_found (cgroup : Cgroup) (path : Path) (reply : Except SystemError Cgroup)
    (ls : List Listing) (os : List (Opening Handle)) :
    ∀ c ∈ (.openCgroup path reply :: (ls.map (·.record cgroup) ++ os.map (·.record)) :
      Trace Handle Cgroup), c.asks := by
  refine List.forall_mem_cons.mpr ⟨rfl, List.forall_mem_append.mpr ⟨?_, ?_⟩⟩
  · exact List.forall_mem_map.mpr fun l _ => rfl
  · exact List.forall_mem_map.mpr fun o _ => rfl

theorem Finds.asks {path : Path} {r : Except FilterError (Cgroup × List (Attached Handle))}
    {t : Trace Handle Cgroup} (h : Finds path r t) : ∀ c ∈ t, c.asks := by
  cases h with
  | unopened cause => exact List.forall_mem_singleton.mpr rfl
  | unlisted cgroup hls hos => exact asks_of_found cgroup path _ _ _
  | listed cgroup hls hos => exact asks_of_found cgroup path _ _ _

def decoded (x : Reading Handle) : Except FilterError DecodedProgram :=
  (x.decoded manager.config.license).mapError .bpf

/-- An inspection: nothing was found to read, or what was listed is read. -/
inductive Inspects (path : Path) :
    Except FilterError (List DecodedProgram) → Trace Handle Cgroup → Prop
  | unfound {e : FilterError} {t : Trace Handle Cgroup} (h : Finds path (.error e) t) :
      Inspects path (.error e) t
  | found {cgroup : Cgroup} {attached : List (Attached Handle)} {t : Trace Handle Cgroup}
      {r : Except FilterError (List DecodedProgram)} {xs : List (Reading Handle)}
      (h : Finds path (.ok (cgroup, attached)) t) (hxs : Reads manager.decoded attached r xs) :
      Inspects path r (t ++ xs.flatMap (·.calls manager.config.generation))

theorem Inspects.asks {path : Path} {r : Except FilterError (List DecodedProgram)}
    {t : Trace Handle Cgroup} (h : manager.Inspects path r t) : ∀ c ∈ t, c.asks := by
  cases h with
  | unfound h => exact h.asks
  | found h hxs =>
    refine List.forall_mem_append.mpr ⟨h.asks, fun c hc => ?_⟩
    obtain ⟨x, -, hc⟩ := List.mem_flatMap.mp hc
    exact x.asks_of_mem_calls hc

end Manager

end DeviceFilter
