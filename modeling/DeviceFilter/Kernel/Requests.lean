import DeviceFilter.Kernel.Layout

/-!
Arguments of the program calls of the kernel, one record for each kind of call.
-/
set_option autoImplicit false

namespace DeviceFilter

/-- Arguments of a load: the program, its license and name, and a buffer for the verifier log. -/
structure LoadRequest where
  type : UInt32 := 0
  instructionCount : UInt32 := 0
  instructionsAddress : UInt64 := 0
  licenseAddress : UInt64 := 0
  logLevel : UInt32 := 0
  logSize : UInt32 := 0
  logAddress : UInt64 := 0
  kernelVersion : UInt32 := 0
  flags : UInt32 := 0
  name : Vector UInt8 16 := Vector.replicate 16 0
  interfaceIndex : UInt32 := 0
  attachType : UInt32 := 0
deriving DecidableEq, Repr

def LoadRequest.layout : Layout LoadRequest where
  size := 72
  fields :=
    [ .word "prog_type" (·.type) (fun v r => { r with type := v }),
      .word "insn_cnt" (·.instructionCount) (fun v r => { r with instructionCount := v }),
      .long "insns" (·.instructionsAddress) (fun v r => { r with instructionsAddress := v }),
      .long "license" (·.licenseAddress) (fun v r => { r with licenseAddress := v }),
      .word "log_level" (·.logLevel) (fun v r => { r with logLevel := v }),
      .word "log_size" (·.logSize) (fun v r => { r with logSize := v }),
      .long "log_buf" (·.logAddress) (fun v r => { r with logAddress := v }),
      .word "kern_version" (·.kernelVersion) (fun v r => { r with kernelVersion := v }),
      .word "prog_flags" (·.flags) (fun v r => { r with flags := v }),
      .raw "prog_name" 16 (·.name) (fun v r => { r with name := v }),
      .word "prog_ifindex" (·.interfaceIndex) (fun v r => { r with interfaceIndex := v }),
      .word "expected_attach_type" (·.attachType) (fun v r => { r with attachType := v }) ]

def LoadRequest.pack (order : ByteOrder) (r : LoadRequest) : List UInt8 :=
  LoadRequest.layout.pack order r

/-- Arguments of attaching and of detaching. -/
structure AttachRequest where
  target : UInt32 := 0
  program : UInt32 := 0
  attachType : UInt32 := 0
  flags : UInt32 := 0
  replaced : UInt32 := 0
deriving DecidableEq, Repr

def AttachRequest.layout : Layout AttachRequest where
  size := 20
  fields :=
    [ .word "target_fd" (·.target) (fun v r => { r with target := v }),
      .word "attach_bpf_fd" (·.program) (fun v r => { r with program := v }),
      .word "attach_type" (·.attachType) (fun v r => { r with attachType := v }),
      .word "attach_flags" (·.flags) (fun v r => { r with flags := v }),
      .word "replace_bpf_fd" (·.replaced) (fun v r => { r with replaced := v }) ]

def AttachRequest.pack (order : ByteOrder) (r : AttachRequest) : List UInt8 :=
  AttachRequest.layout.pack order r

/-- Arguments of listing attached programs; the count is the room on the way in and the number
attached on the way out. -/
structure QueryRequest where
  target : UInt32 := 0
  attachType : UInt32 := 0
  queryFlags : UInt32 := 0
  attachFlags : UInt32 := 0
  idsAddress : UInt64 := 0
  count : UInt32 := 0
deriving DecidableEq, Repr

def QueryRequest.layout : Layout QueryRequest where
  size := 32
  fields :=
    [ .word "target_fd" (·.target) (fun v r => { r with target := v }),
      .word "attach_type" (·.attachType) (fun v r => { r with attachType := v }),
      .word "query_flags" (·.queryFlags) (fun v r => { r with queryFlags := v }),
      .word "attach_flags" (·.attachFlags) (fun v r => { r with attachFlags := v }),
      .long "prog_ids" (·.idsAddress) (fun v r => { r with idsAddress := v }),
      .word "prog_cnt" (·.count) (fun v r => { r with count := v }) ]

def QueryRequest.pack (order : ByteOrder) (r : QueryRequest) : List UInt8 :=
  QueryRequest.layout.pack order r

def QueryRequest.unpack (order : ByteOrder) (bytes : List UInt8) : QueryRequest :=
  QueryRequest.layout.unpack order {} bytes

/-- Arguments of opening a program by its id. -/
structure OpenRequest where
  id : UInt32 := 0
  nextId : UInt32 := 0
  flags : UInt32 := 0
deriving DecidableEq, Repr

def OpenRequest.layout : Layout OpenRequest where
  size := 12
  fields :=
    [ .word "prog_id" (·.id) (fun v r => { r with id := v }),
      .word "next_id" (·.nextId) (fun v r => { r with nextId := v }),
      .word "open_flags" (·.flags) (fun v r => { r with flags := v }) ]

def OpenRequest.pack (order : ByteOrder) (r : OpenRequest) : List UInt8 :=
  OpenRequest.layout.pack order r

/-- Arguments of asking about an open program; the length is the room for the record on the way in
and what was written on the way out. -/
structure InfoRequest where
  program : UInt32 := 0
  length : UInt32 := 0
  recordAddress : UInt64 := 0
deriving DecidableEq, Repr

def InfoRequest.layout : Layout InfoRequest where
  size := 16
  fields :=
    [ .word "bpf_fd" (·.program) (fun v r => { r with program := v }),
      .word "info_len" (·.length) (fun v r => { r with length := v }),
      .long "info" (·.recordAddress) (fun v r => { r with recordAddress := v }) ]

def InfoRequest.pack (order : ByteOrder) (r : InfoRequest) : List UInt8 :=
  InfoRequest.layout.pack order r

def InfoRequest.unpack (order : ByteOrder) (bytes : List UInt8) : InfoRequest :=
  InfoRequest.layout.unpack order {} bytes

end DeviceFilter
