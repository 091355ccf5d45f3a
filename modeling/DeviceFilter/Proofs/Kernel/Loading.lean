import DeviceFilter.Bytes.Lemmas
import DeviceFilter.Kernel.SystemCalls
import DeviceFilter.Proofs.Counted
import DeviceFilter.Proofs.Kernel.Requests
import DeviceFilter.Proofs.Text.Trimmed
import DeviceFilter.Proofs.Text.Utf8

/-!
Loading a program, whatever the kernel replies. A license with a zero byte is refused without a
call. Otherwise there is one call, and a second one if it fails, which asks for the verifier's log
and differs from the first in nothing else. If both fail, the error is that of the first call, with
what the log says behind its text.
-/
set_option autoImplicit false

namespace DeviceFilter

/-! ## Memory that is written and read -/

namespace Memory

theorem region?_write (memory : Memory) (address : UInt64) (bytes : List UInt8) :
    (memory.write address bytes).region? address
      = (memory.region? address).map (·.write bytes) := by
  induction memory with
  | nil => rfl
  | cons r memory ih =>
    rw [write, region?, region?, List.map_cons]
    cases h : r.address == address with
    | true =>
      have hwritten : ((r.write bytes).address == address) = true := h
      simp only [if_true, List.find?_cons, hwritten, h, Option.map_some]
    | false =>
      simp only [Bool.false_eq_true, if_false, List.find?_cons, h]
      exact ih

theorem read_write {memory : Memory} {address : UInt64} {r : MemoryRegion}
    (h : memory.region? address = some r) (bytes : List UInt8) (size : Nat) :
    (memory.write address bytes).read address size
      = Layout.fit (min size r.size) (r.write bytes).bytes := by
  rw [read, region?_write, h]
  rfl

end Memory

/-- A program call with its reply. -/
structure BpfExchange where
  call : BpfCall
  reply : BpfReply

namespace SystemCalls

/-- The same system calls, which also keep the program calls with their replies in order. -/
def recorded {σ : Type} (calls : SystemCalls (StateM σ)) :
    SystemCalls (StateM (List BpfExchange × σ)) where
  openDirectory path := fun (t, s) =>
    ((calls.openDirectory path s).1, t, (calls.openDirectory path s).2)
  bpf call := fun (t, s) =>
    ((calls.bpf call s).1, t ++ [⟨call, (calls.bpf call s).1⟩], (calls.bpf call s).2)
  raiseMemlock := fun (t, s) => ((calls.raiseMemlock s).1, t, (calls.raiseMemlock s).2)

section
variable (order : ByteOrder) (p : Program) (license name : String)

/-! ## The two calls -/

def firstCall : BpfCall where
  command := .load
  request := (firstLoad p name).pack order
  memory :=
    [ .ofBytes (address 0) (p.encode order),
      .ofBytes (address 1) (Utf8.encode license.toList ++ [0]) ]

def loggedCall : BpfCall where
  command := .load
  request := (loggedLoad p name).pack order
  memory := (firstCall order p license name).memory ++ [.zeroed (address 2) logSize]

/-- The requests of both calls differ in the bytes 24 to 39 alone, which hold level, size and
address of the log and are zero in the first call. -/
structure DifferInLog (first logged : List UInt8) : Prop where
  length_first : first.length = 72
  length_logged : logged.length = 72
  front : first.take 24 = logged.take 24
  back : first.drop 40 = logged.drop 40
  blank : (first.take 40).drop 24 = List.replicate 16 0
  log : (logged.take 40).drop 24
    = order.bytes 4 1 ++ order.bytes 4 65536 ++ order.bytes 8 (address 2).toNat

theorem differInLog :
    DifferInLog order (firstCall order p license name).request
      (loggedCall order p license name).request := by
  have hlawful := LoadRequest.separate_layout.lawful
  have hzeros : order.bytes 4 0 ++ (order.bytes 4 0 ++ (order.bytes 8 0 ++ []))
      = List.replicate 16 0 := by
    cases order <;> rfl
  constructor
  · exact Layout.length_pack ..
  · exact Layout.length_pack ..
  · have hfirst := hlawful.take_start_pack order 4 (firstLoad p name)
    exact hfirst.trans (hlawful.take_start_pack order 4 (loggedLoad p name)).symm
  · have hfirst := hlawful.drop_start_pack order 7 (firstLoad p name)
    exact hfirst.trans (hlawful.drop_start_pack order 7 (loggedLoad p name)).symm
  · have hpart := hlawful.part_pack order (show 4 ≤ 7 by decide) (firstLoad p name)
    exact hpart.trans hzeros
  · have hpart := hlawful.part_pack order (show 4 ≤ 7 by decide) (loggedLoad p name)
    refine hpart.trans ?_
    change order.bytes 4 1 ++ (order.bytes 4 65536 ++ (order.bytes 8 (address 2).toNat ++ [])) = _
    rw [List.append_nil, List.append_assoc]

/-! ## How a load goes -/

/-- The calls of a load, with its result. -/
inductive Course : Except SystemError UInt32 → List BpfExchange → Prop where
  | refused (position : Nat) : '\x00' ∈ license.toList → Course (.error (zeroByteAt position)) []
  | first {reply : BpfReply} {handle : UInt32} : '\x00' ∉ license.toList →
      reply.result = .ok handle → Course (.ok handle) [⟨firstCall order p license name, reply⟩]
  | logged {reply reply' : BpfReply} {number : Nat} {handle : UInt32} :
      '\x00' ∉ license.toList → reply.result = .error number → reply'.result = .ok handle →
      Course (.ok handle)
        [⟨firstCall order p license name, reply⟩, ⟨loggedCall order p license name, reply'⟩]
  | failed {reply reply' : BpfReply} {number number' : Nat} :
      '\x00' ∉ license.toList → reply.result = .error number → reply'.result = .error number' →
      Course (.error (loadFailure (failure number) (reply'.memory.read (address 2) logSize)))
        [⟨firstCall order p license name, reply⟩, ⟨loggedCall order p license name, reply'⟩]

section
variable {σ : Type} {calls : SystemCalls (StateM σ)} {s s₁ s₂ : σ} {reply reply' : BpfReply}

theorem zeroByte_eq_none_iff :
    (Utf8.encode license.toList).findIdx? (· == 0) = none ↔ '\x00' ∉ license.toList := by
  rw [← Utf8.zero_mem_encode_iff, List.findIdx?_eq_none_iff]
  constructor
  · intro hall hzero
    exact absurd (hall 0 hzero) (by decide)
  · intro hnone b hb
    rw [beq_eq_false_iff_ne]
    rintro rfl
    exact hnone hb

theorem load_of_zeroByte {position : Nat}
    (h : (Utf8.encode license.toList).findIdx? (· == 0) = some position) :
    calls.load order p license name s = (.error (zeroByteAt position), s) := by
  simp only [load, h]
  rfl

/-- Without a zero byte in the license, the second call depends on the first one's reply. -/
theorem load_eq (h : '\x00' ∉ license.toList) :
    calls.load order p license name = (do
      let reply ← calls.bpf (firstCall order p license name)
      match reply.result with
      | .ok handle => return .ok handle
      | .error number =>
        let reply' ← calls.bpf (loggedCall order p license name)
        match reply'.result with
        | .ok handle => return .ok handle
        | .error _ =>
          return .error
            (loadFailure (failure number) (reply'.memory.read (address 2) logSize))) := by
  simp only [load, (zeroByte_eq_none_iff license).mpr h]
  rfl

theorem load_of_first (h : '\x00' ∉ license.toList) {handle : UInt32}
    (hfirst : calls.bpf (firstCall order p license name) s = (reply, s₁))
    (hresult : reply.result = .ok handle) :
    calls.load order p license name s = (.ok handle, s₁) := by
  rw [load_eq order p license name h, Counted.bind_apply, hfirst]
  simp only [hresult]
  rfl

theorem load_of_logged (h : '\x00' ∉ license.toList) {number : Nat}
    (hfirst : calls.bpf (firstCall order p license name) s = (reply, s₁))
    (hresult : reply.result = .error number)
    (hlogged : calls.bpf (loggedCall order p license name) s₁ = (reply', s₂)) :
    calls.load order p license name s
      = (reply'.result.mapError fun _ =>
          loadFailure (failure number) (reply'.memory.read (address 2) logSize), s₂) := by
  rw [load_eq order p license name h, Counted.bind_apply, hfirst]
  simp only [hresult]
  rw [Counted.bind_apply, hlogged]
  cases hresult' : reply'.result with
  | ok handle => rfl
  | error number' => rfl

theorem recorded_bpf {call : BpfCall} (h : calls.bpf call s = (reply, s₁))
    (t : List BpfExchange) :
    calls.recorded.bpf call (t, s) = (reply, t ++ [⟨call, reply⟩], s₁) := by
  change ((calls.bpf call s).1, t ++ [⟨call, (calls.bpf call s).1⟩], (calls.bpf call s).2) = _
  rw [h]

variable (calls s)

theorem course_load :
    ∃ r t s', calls.load order p license name s = (r, s') ∧
      calls.recorded.load order p license name ([], s) = (r, t, s') ∧
      Course order p license name r t := by
  by_cases hzero : '\x00' ∈ license.toList
  · have hsome := mt (zeroByte_eq_none_iff license).mp (not_not_intro hzero)
    obtain ⟨position, hposition⟩ := Option.ne_none_iff_exists'.mp hsome
    exact ⟨_, _, s, load_of_zeroByte order p license name hposition,
      load_of_zeroByte order p license name hposition, .refused position hzero⟩
  · obtain ⟨reply, s₁, hfirst⟩ : ∃ reply s₁,
        calls.bpf (firstCall order p license name) s = (reply, s₁) := ⟨_, _, rfl⟩
    have hfirst' := recorded_bpf hfirst []
    cases hresult : reply.result with
    | ok handle =>
      exact ⟨_, _, s₁, load_of_first order p license name hzero hfirst hresult,
        load_of_first order p license name hzero hfirst' hresult, .first hzero hresult⟩
    | error number =>
      obtain ⟨reply', s₂, hlogged⟩ : ∃ reply' s₂,
          calls.bpf (loggedCall order p license name) s₁ = (reply', s₂) := ⟨_, _, rfl⟩
      have hlogged' := recorded_bpf hlogged [⟨firstCall order p license name, reply⟩]
      refine ⟨_, _, s₂, load_of_logged order p license name hzero hfirst hresult hlogged,
        load_of_logged order p license name hzero hfirst' hresult hlogged', ?_⟩
      cases hresult' : reply'.result with
      | ok handle => exact .logged hzero hresult hresult'
      | error number' => exact .failed hzero hresult hresult'

end

/-! ## What the log says -/

/-- What lies in the buffer for the log after a call, up to the first zero byte. -/
def said (reply : BpfReply) : List Char :=
  Utf8.decodeLossy ((reply.memory.read (address 2) logSize).takeWhile (· != 0))

/-- A kernel that writes nowhere but to the buffer for the log says what it wrote. -/
theorem said_of_written {reply : BpfReply} {log : List UInt8} (hlog : log.length ≤ logSize)
    (h : reply.memory = (loggedCall order p license name).memory.write (address 2) log) :
    said reply = Utf8.decodeLossy (log.takeWhile (· != 0)) := by
  have hregion : Memory.region? (loggedCall order p license name).memory (address 2)
      = some (.zeroed (address 2) logSize) := rfl
  have hbytes : ((MemoryRegion.zeroed (address 2) logSize).write log).bytes = log := by
    change log.take logSize ++ [].drop log.length = log
    rw [List.drop_nil, List.append_nil, List.take_of_length_le hlog]
  have hread := Memory.read_write hregion log logSize
  rw [hbytes, ← h] at hread
  rw [said, hread]
  change Utf8.decodeLossy ((Layout.fit logSize log).takeWhile (· != 0)) = _
  rw [Layout.fit_of_length_le hlog, takeWhile_append_zeros]

/-- The error `e` is the failure `first`, with the text that was said behind its own. -/
structure Explains (first : SystemError) (said : List Char) (e : SystemError) : Prop where
  kind : e.kind = first.kind
  blank : Text.isBlankText said → e.message = first.message
  filled : ¬ Text.isBlankText said → ∃ inner, Text.Trims said inner ∧
    e.message = first.message ++ ": " ++ String.ofList inner

theorem explains_loadFailure (first : SystemError) (reply : BpfReply) :
    Explains first (said reply)
      (loadFailure first (reply.memory.read (address 2) logSize)) := by
  have htext : logText (reply.memory.read (address 2) logSize) = Text.trim (said reply) := rfl
  rw [loadFailure, htext]
  cases htrim : Text.trim (said reply) with
  | nil =>
    have hblank := (Text.trim_eq_nil_iff _).mp htrim
    exact ⟨rfl, fun _ => rfl, fun hfilled => absurd hblank hfilled⟩
  | cons c cs =>
    have hinner := Text.trims_trim (said reply)
    rw [htrim] at hinner
    refine ⟨rfl, fun hblank => ?_, fun _ => ⟨c :: cs, hinner, rfl⟩⟩
    rw [(Text.trim_eq_nil_iff _).mpr hblank] at htrim
    cases htrim

/-! ## Whatever the kernel replies -/

/-- What holds of a load with the result `r` and the calls `t`. -/
structure Loads (r : Except SystemError UInt32) (t : List BpfExchange) : Prop where
  calls : t.map (·.call) <+: [firstCall order p license name, loggedCall order p license name]
  uncalled_iff : t = [] ↔ '\x00' ∈ license.toList
  invalid : '\x00' ∈ license.toList → ∃ e, r = .error e ∧ e.kind = .invalidInput
  again_iff : t.length = 2 ↔ ∃ x number, t.head? = some x ∧ x.reply.result = .error number
  ok_iff : ∀ handle, r = .ok handle ↔ ∃ x ∈ t, x.reply.result = .ok handle
  failed : ∀ x y number number', t = [x, y] → x.reply.result = .error number →
    y.reply.result = .error number' →
    ∃ e, r = .error e ∧ Explains (failure number) (said y.reply) e
  written : ∀ x y log, t = [x, y] → log.length ≤ logSize →
    y.reply.memory = y.call.memory.write (address 2) log →
    said y.reply = Utf8.decodeLossy (log.takeWhile (· != 0))

theorem Course.loads {r : Except SystemError UInt32} {t : List BpfExchange}
    (h : Course order p license name r t) : Loads order p license name r t := by
  have hwritten (y : BpfExchange) (log : List UInt8)
      (hy : y.call = loggedCall order p license name) (hlog : log.length ≤ logSize)
      (hmemory : y.reply.memory = y.call.memory.write (address 2) log) :
      said y.reply = Utf8.decodeLossy (log.takeWhile (· != 0)) := by
    rw [hy] at hmemory
    exact said_of_written order p license name hlog hmemory
  cases h with
  | refused position hzero =>
    refine ⟨List.nil_prefix, iff_of_true rfl hzero, fun _ => ⟨_, rfl, rfl⟩, ?_, ?_, ?_, ?_⟩
    · simp
    · simp
    · rintro x y number number' ⟨⟩
    · rintro x y log ⟨⟩
  | first hzero hresult =>
    refine ⟨⟨[loggedCall order p license name], rfl⟩, iff_of_false (List.cons_ne_nil _ _) hzero,
      fun h => absurd h hzero, ?_, ?_, ?_, ?_⟩
    · simp [hresult]
    · simp [hresult]
    · rintro x y number number' ⟨⟩
    · rintro x y log ⟨⟩
  | logged hzero hresult hresult' =>
    refine ⟨List.prefix_refl _, iff_of_false (List.cons_ne_nil _ _) hzero,
      fun h => absurd h hzero, ?_, ?_, ?_, ?_⟩
    · simp [hresult]
    · simp [hresult, hresult']
    · rintro x y number number' ⟨⟩ - herror
      cases hresult'.symm.trans herror
    · rintro x y log ⟨⟩
      exact hwritten _ log rfl
  | failed hzero hresult hresult' =>
    refine ⟨List.prefix_refl _, iff_of_false (List.cons_ne_nil _ _) hzero,
      fun h => absurd h hzero, ?_, ?_, ?_, ?_⟩
    · simp [hresult]
    · simp [hresult, hresult']
    · rintro x y number number' ⟨⟩ hnumber -
      cases hresult.symm.trans hnumber
      exact ⟨_, rfl, explains_loadFailure _ _⟩
    · rintro x y log ⟨⟩
      exact hwritten _ log rfl

/-- A load calls the kernel at most twice, whatever it replies, and the two requests differ in the
arguments for the log alone. -/
theorem load_retries_with_log {σ : Type} (calls : SystemCalls (StateM σ)) (s : σ) :
    DifferInLog order (firstCall order p license name).request
        (loggedCall order p license name).request ∧
      ∃ r t s', calls.load order p license name s = (r, s') ∧
        calls.recorded.load order p license name ([], s) = (r, t, s') ∧
        Loads order p license name r t := by
  obtain ⟨r, t, s', hrun, hrecorded, hcourse⟩ := course_load order p license name calls s
  exact ⟨differInLog order p license name, r, t, s', hrun, hrecorded, hcourse.loads⟩

end

end SystemCalls

end DeviceFilter
