import DeviceFilter.Kernel.Layout
import DeviceFilter.Text.Utf8

/-!
What the kernel tells about a loaded program. The record only ever grows at its end; two
generations of it are known, and the older one is a part of the newer one. Arrays that belong to
the record are written to buffers of the caller, who names them by count and address.
-/
set_option autoImplicit false

namespace DeviceFilter

/-- Which generation of the record to exchange. -/
inductive Generation where
  /-- Up to the run count, 208 bytes. -/
  | early
  /-- Adds recursion misses, verified instructions and two type ids, 232 bytes. -/
  | late
deriving DecidableEq, Repr

def Generation.size : Generation → Nat
  | early => 208
  | late => 232

structure ProgramInfo where
  type : UInt32 := 0
  id : UInt32 := 0
  tag : Vector UInt8 8 := Vector.replicate 8 0
  jitedLength : UInt32 := 0
  translatedLength : UInt32 := 0
  jitedAddress : UInt64 := 0
  translatedAddress : UInt64 := 0
  loadTime : UInt64 := 0
  owner : UInt32 := 0
  mapCount : UInt32 := 0
  mapIdsAddress : UInt64 := 0
  name : Vector UInt8 16 := Vector.replicate 16 0
  interfaceIndex : UInt32 := 0
  gplCompatible : Bool := false
  namespaceDevice : UInt64 := 0
  namespaceInode : UInt64 := 0
  jitedSymbolCount : UInt32 := 0
  jitedFunctionCount : UInt32 := 0
  jitedSymbolsAddress : UInt64 := 0
  jitedFunctionsAddress : UInt64 := 0
  typeInfoId : UInt32 := 0
  functionRecordSize : UInt32 := 0
  functionsAddress : UInt64 := 0
  functionCount : UInt32 := 0
  lineCount : UInt32 := 0
  linesAddress : UInt64 := 0
  jitedLinesAddress : UInt64 := 0
  jitedLineCount : UInt32 := 0
  lineRecordSize : UInt32 := 0
  jitedLineRecordSize : UInt32 := 0
  tagCount : UInt32 := 0
  tagsAddress : UInt64 := 0
  runTime : UInt64 := 0
  runCount : UInt64 := 0
  recursionMisses : UInt64 := 0
  verifiedInstructions : UInt32 := 0
  attachTypeInfoObject : UInt32 := 0
  attachTypeInfo : UInt32 := 0
deriving DecidableEq, Repr

namespace ProgramInfo

/-- The fields of both generations. -/
def earlyFields : List (LayoutField ProgramInfo) :=
  [ .word "prog_type" (·.type) (fun v i => { i with type := v }),
    .word "id" (·.id) (fun v i => { i with id := v }),
    .raw "tag" 8 (·.tag) (fun v i => { i with tag := v }),
    .word "jited_prog_len" (·.jitedLength) (fun v i => { i with jitedLength := v }),
    .word "xlated_prog_len" (·.translatedLength) (fun v i => { i with translatedLength := v }),
    .long "jited_prog_insns" (·.jitedAddress) (fun v i => { i with jitedAddress := v }),
    .long "xlated_prog_insns" (·.translatedAddress) (fun v i => { i with translatedAddress := v }),
    .long "load_time" (·.loadTime) (fun v i => { i with loadTime := v }),
    .word "created_by_uid" (·.owner) (fun v i => { i with owner := v }),
    .word "nr_map_ids" (·.mapCount) (fun v i => { i with mapCount := v }),
    .long "map_ids" (·.mapIdsAddress) (fun v i => { i with mapIdsAddress := v }),
    .raw "name" 16 (·.name) (fun v i => { i with name := v }),
    .word "ifindex" (·.interfaceIndex) (fun v i => { i with interfaceIndex := v }),
    .flag "gpl_compatible" (·.gplCompatible) (fun v i => { i with gplCompatible := v }),
    .long "netns_dev" (·.namespaceDevice) (fun v i => { i with namespaceDevice := v }),
    .long "netns_ino" (·.namespaceInode) (fun v i => { i with namespaceInode := v }),
    .word "nr_jited_ksyms" (·.jitedSymbolCount) (fun v i => { i with jitedSymbolCount := v }),
    .word "nr_jited_func_lens" (·.jitedFunctionCount)
      (fun v i => { i with jitedFunctionCount := v }),
    .long "jited_ksyms" (·.jitedSymbolsAddress) (fun v i => { i with jitedSymbolsAddress := v }),
    .long "jited_func_lens" (·.jitedFunctionsAddress)
      (fun v i => { i with jitedFunctionsAddress := v }),
    .word "btf_id" (·.typeInfoId) (fun v i => { i with typeInfoId := v }),
    .word "func_info_rec_size" (·.functionRecordSize)
      (fun v i => { i with functionRecordSize := v }),
    .long "func_info" (·.functionsAddress) (fun v i => { i with functionsAddress := v }),
    .word "nr_func_info" (·.functionCount) (fun v i => { i with functionCount := v }),
    .word "nr_line_info" (·.lineCount) (fun v i => { i with lineCount := v }),
    .long "line_info" (·.linesAddress) (fun v i => { i with linesAddress := v }),
    .long "jited_line_info" (·.jitedLinesAddress) (fun v i => { i with jitedLinesAddress := v }),
    .word "nr_jited_line_info" (·.jitedLineCount) (fun v i => { i with jitedLineCount := v }),
    .word "line_info_rec_size" (·.lineRecordSize) (fun v i => { i with lineRecordSize := v }),
    .word "jited_line_info_rec_size" (·.jitedLineRecordSize)
      (fun v i => { i with jitedLineRecordSize := v }),
    .word "nr_prog_tags" (·.tagCount) (fun v i => { i with tagCount := v }),
    .long "prog_tags" (·.tagsAddress) (fun v i => { i with tagsAddress := v }),
    .long "run_time_ns" (·.runTime) (fun v i => { i with runTime := v }),
    .long "run_cnt" (·.runCount) (fun v i => { i with runCount := v }) ]

/-- The fields that the later generation adds. -/
def lateFields : List (LayoutField ProgramInfo) :=
  [ .long "recursion_misses" (·.recursionMisses) (fun v i => { i with recursionMisses := v }),
    .word "verified_insns" (·.verifiedInstructions)
      (fun v i => { i with verifiedInstructions := v }),
    .word "attach_btf_obj_id" (·.attachTypeInfoObject)
      (fun v i => { i with attachTypeInfoObject := v }),
    .word "attach_btf_id" (·.attachTypeInfo) (fun v i => { i with attachTypeInfo := v }) ]

def layout : Generation → Layout ProgramInfo
  | .early => ⟨earlyFields, 208⟩
  | .late => ⟨earlyFields ++ lateFields, 232⟩

def pack (generation : Generation) (order : ByteOrder) (i : ProgramInfo) : List UInt8 :=
  (layout generation).pack order i

/-- Fields that the generation or the buffer does not have are zero. -/
def unpack (generation : Generation) (order : ByteOrder) (bytes : List UInt8) : ProgramInfo :=
  (layout generation).unpack order {} bytes

/-- The name up to its first zero byte. -/
def nameChars (i : ProgramInfo) : List Char := Utf8.decodeLossy (i.name.toList.takeWhile (· != 0))

def nameText (i : ProgramInfo) : String := String.ofList i.nameChars

end ProgramInfo

/-- The arrays that belong to a program's record. -/
inductive InfoArray where
  | translated
  | jited
  | mapIds
  | jitedSymbols
  | jitedFunctions
  | functions
  | lines
  | jitedLines
  | tags
deriving DecidableEq, Repr

def InfoArray.all : List InfoArray :=
  [.translated, .jited, .mapIds, .jitedSymbols, .jitedFunctions, .functions, .lines, .jitedLines,
    .tags]

/-- Sizes in bytes of the buffers for the arrays, and the record sizes of three of them, which the
kernel wants to hear back. No buffers at all is the request for sizes. -/
structure InfoBuffers where
  translated : Nat := 0
  jited : Nat := 0
  mapIds : Nat := 0
  jitedSymbols : Nat := 0
  jitedFunctions : Nat := 0
  functions : Nat := 0
  lines : Nat := 0
  jitedLines : Nat := 0
  tags : Nat := 0
  functionRecordSize : UInt32 := 0
  lineRecordSize : UInt32 := 0
  jitedLineRecordSize : UInt32 := 0
deriving DecidableEq, Repr

namespace InfoBuffers

/-- Buffers of exactly the sizes that the kernel reported. -/
def sizedFor (i : ProgramInfo) : InfoBuffers where
  translated := i.translatedLength.toNat
  jited := i.jitedLength.toNat
  mapIds := i.mapCount.toNat * 4
  jitedSymbols := i.jitedSymbolCount.toNat * 8
  jitedFunctions := i.jitedFunctionCount.toNat * 4
  functions := i.functionCount.toNat * i.functionRecordSize.toNat
  lines := i.lineCount.toNat * i.lineRecordSize.toNat
  jitedLines := i.jitedLineCount.toNat * i.jitedLineRecordSize.toNat
  tags := i.tagCount.toNat * 8
  functionRecordSize := i.functionRecordSize
  lineRecordSize := i.lineRecordSize
  jitedLineRecordSize := i.jitedLineRecordSize

/-- Size of the buffer for one array. -/
def size (b : InfoBuffers) : InfoArray → Nat
  | .translated => b.translated
  | .jited => b.jited
  | .mapIds => b.mapIds
  | .jitedSymbols => b.jitedSymbols
  | .jitedFunctions => b.jitedFunctions
  | .functions => b.functions
  | .lines => b.lines
  | .jitedLines => b.jitedLines
  | .tags => b.tags

def sizes (b : InfoBuffers) : List Nat := InfoArray.all.map b.size

/-- Number of records of `size` bytes in a buffer; a size of zero counts bytes. -/
def count (bytes : Nat) (size : Nat) : UInt32 := UInt32.ofNat (bytes / max size 1)

/-- The record that asks for the arrays, given where each buffer lies. Empty buffers have no
address. -/
def request (b : InfoBuffers) (address : InfoArray → UInt64) : ProgramInfo :=
  let place (array : InfoArray) (bytes : Nat) : UInt64 := if bytes = 0 then 0 else address array
  { translatedLength := UInt32.ofNat b.translated
    translatedAddress := place .translated b.translated
    jitedLength := UInt32.ofNat b.jited
    jitedAddress := place .jited b.jited
    mapCount := count b.mapIds 4
    mapIdsAddress := place .mapIds b.mapIds
    jitedSymbolCount := count b.jitedSymbols 8
    jitedSymbolsAddress := place .jitedSymbols b.jitedSymbols
    jitedFunctionCount := count b.jitedFunctions 4
    jitedFunctionsAddress := place .jitedFunctions b.jitedFunctions
    functionRecordSize := b.functionRecordSize
    functionCount := count b.functions b.functionRecordSize.toNat
    functionsAddress := place .functions b.functions
    lineRecordSize := b.lineRecordSize
    lineCount := count b.lines b.lineRecordSize.toNat
    linesAddress := place .lines b.lines
    jitedLineRecordSize := b.jitedLineRecordSize
    jitedLineCount := count b.jitedLines b.jitedLineRecordSize.toNat
    jitedLinesAddress := place .jitedLines b.jitedLines
    tagCount := count b.tags 8
    tagsAddress := place .tags b.tags }

end InfoBuffers

end DeviceFilter
