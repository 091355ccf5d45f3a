import DeviceFilter.Proofs.Procfs.Octal
import DeviceFilter.Proofs.Text.Fields
import DeviceFilter.Proofs.Text.Utf8

/-!
Lines of a mount table without the reader. A line is its fields between single spaces, with escapes
in the two paths; its mount comes back, however many optional fields stand before the dash. The
other fields may even be empty, but a space in one of them, or a dash for an optional field, would
shift all that follow.
-/
set_option autoImplicit false

namespace DeviceFilter

/-! ## Fields with escapes -/

def escapedChar (c : Char) : List Char :=
  if c = ' ' ∨ c = '\t' ∨ c = '\n' ∨ c = '\\' then
    ['\\', Nat.digitChar (c.toNat / 64), Nat.digitChar (c.toNat / 8 % 8),
      Nat.digitChar (c.toNat % 8)]
  else [c]

def escapedField (cs : List Char) : List Char := cs.flatMap escapedChar

/-- No byte of a longer character can be mistaken for one that is escaped. -/
theorem not_special_of_mem_encodeChar {c : Char} {b : UInt8}
    (h : ¬ (c = ' ' ∨ c = '\t' ∨ c = '\n' ∨ c = '\\')) (hb : b ∈ Utf8.encodeChar c) :
    ¬ Octal.Special b := by
  intro hspecial
  have hlow : b.toNat < 0x80 := by
    rcases hspecial with rfl | rfl | rfl | rfl <;> decide
  have hvalue : c.toNat = b.toNat := (Utf8.mem_encodeChar_iff_of_lt hlow).mp hb
  have hchar : c = Char.ofNat b.toNat := by
    rw [← hvalue, Char.ofNat_toNat]
  apply h
  rcases hspecial with rfl | rfl | rfl | rfl
  · exact .inl hchar
  · exact .inr (.inl hchar)
  · exact .inr (.inr (.inl hchar))
  · exact .inr (.inr (.inr hchar))

theorem encode_escapedChar (c : Char) :
    Utf8.encode (escapedChar c) = Octal.escape (Utf8.encodeChar c) := by
  by_cases h : c = ' ' ∨ c = '\t' ∨ c = '\n' ∨ c = '\\'
  · rcases h with rfl | rfl | rfl | rfl <;> rfl
  · have hplain := Octal.escape_of_not_special fun b hb => not_special_of_mem_encodeChar h hb
    rw [escapedChar, if_neg h, hplain]
    exact List.append_nil _

theorem encode_escapedField (cs : List Char) :
    Utf8.encode (escapedField cs) = Octal.escape (Utf8.encode cs) := by
  induction cs with
  | nil => rfl
  | cons c cs ih =>
    have hcons : Utf8.encode (escapedField (c :: cs))
        = Utf8.encode (escapedChar c) ++ Utf8.encode (escapedField cs) := List.flatMap_append
    rw [hcons, ih, encode_escapedChar, ← Octal.escape_append]
    rfl

theorem unescapedField_escapedField (cs : List Char) : unescapedField (escapedField cs) = cs := by
  rw [unescapedField, encode_escapedField, Octal.unescape_escape, Utf8.decodeLossy_encode]

theorem space_not_mem_escapedField (cs : List Char) : ' ' ∉ escapedField cs := by
  intro hspace
  obtain ⟨c, -, hc⟩ := List.mem_flatMap.mp hspace
  by_cases h : c = ' ' ∨ c = '\t' ∨ c = '\n' ∨ c = '\\'
  · rcases h with rfl | rfl | rfl | rfl <;> exact absurd hc (by decide)
  · rw [escapedChar, if_neg h, List.mem_singleton] at hc
    exact h (.inl hc.symm)

/-! ## Lines -/

/-- What stands on a line, with the paths and names as they are meant. -/
structure MountLine where
  number : List Char
  parent : List Char
  device : List Char
  root : String
  mountPoint : String
  options : List Char
  optional : List (List Char)
  fileSystem : String
  source : List Char
  superOptions : List String
  spaceless : ∀ field ∈
    number :: parent :: device :: options :: fileSystem.toList :: source :: optional, ' ' ∉ field
  no_dash : ['-'] ∉ optional
  superOptions_ne_nil : superOptions ≠ []
  separable : ∀ option ∈ superOptions, ' ' ∉ option.toList ∧ ',' ∉ option.toList

namespace MountLine

variable (l : MountLine)

/-- The lone dash and what follows it. -/
def ending : List (List Char) :=
  [['-'], l.fileSystem.toList, l.source, Text.joined ',' l.superOptions]

def fields : List (List Char) :=
  l.number :: l.parent :: l.device :: escapedField l.root.toList ::
    escapedField l.mountPoint.toList :: l.options :: (l.optional ++ l.ending)

def text : List Char := [' '].intercalate l.fields

def entry : MountEntry := ⟨l.root, l.mountPoint, l.fileSystem, l.superOptions⟩

theorem split_text : Text.split ' ' l.text = l.fields := by
  apply Text.split_intercalate (List.cons_ne_nil _ _)
  have hspaceless := l.spaceless
  have hroot := space_not_mem_escapedField l.root.toList
  have hmount := space_not_mem_escapedField l.mountPoint.toList
  have hsuper : ' ' ∉ Text.joined ',' l.superOptions :=
    Text.not_mem_joined (by decide) fun option hoption => (l.separable option hoption).1
  simp only [List.forall_mem_cons] at hspaceless
  obtain ⟨hnumber, hparent, hdevice, hoptions, hsystem, hsource, hoptional⟩ := hspaceless
  simp only [ending, List.forall_mem_cons, List.forall_mem_append]
  exact ⟨hnumber, hparent, hdevice, hroot, hmount, hoptions, hoptional, by decide, hsystem,
    hsource, hsuper, by simp⟩

theorem separator?_fields : MountEntry.separator? l.fields 6 = some (l.optional.length + 6) := by
  have hdrop : l.fields.drop 6 = l.optional ++ l.ending := rfl
  have hnone : l.optional.findIdx? (· == ['-']) = none := by
    apply List.findIdx?_eq_none_iff.mpr
    intro field hfield
    apply beq_false_of_ne
    intro hdash
    exact l.no_dash (hdash ▸ hfield)
  have hending : l.ending.findIdx? (· == ['-']) = some 0 := rfl
  rw [MountEntry.separator?, hdrop, List.findIdx?_append, hnone, hending]
  simp

theorem getElem?_fields (k : Nat) : l.fields[l.optional.length + 6 + k]? = l.ending[k]? := by
  have hfields : l.fields[l.optional.length + 6 + k]?
      = (l.optional ++ l.ending)[l.optional.length + k]? := by
    rw [Nat.add_right_comm]
    rfl
  rw [hfields, List.getElem?_append_right (Nat.le_add_right _ _), Nat.add_sub_cancel_left]

theorem ofLine_text : MountEntry.ofLine l.text = .ok l.entry := by
  have hsystem : l.fields[l.optional.length + 6 + 1]? = some l.fileSystem.toList :=
    l.getElem?_fields 1
  have hsuper : l.fields[l.optional.length + 6 + 3]? = some (Text.joined ',' l.superOptions) :=
    l.getElem?_fields 3
  have hoptions : Text.split ',' (Text.joined ',' l.superOptions)
      = l.superOptions.map String.toList :=
    Text.split_joined l.superOptions_ne_nil fun option hoption => (l.separable option hoption).2
  unfold MountEntry.ofLine
  rw [split_text]
  dsimp only
  split
  · rename_i root mountPoint rest hfields
    rw [separator?_fields]
    dsimp only
    rw [hsystem, hsuper]
    cases hfields
    simp only [Option.getD_some, hoptions, Text.map_ofList_toList, unescapedField_escapedField,
      String.ofList_toList]
    rfl
  · rename_i hfields
    exact absurd rfl (hfields _ _ _ _ _ _)

/-- A line gives its mount, and undoing the escapes of its paths ends inside of their bytes. -/
theorem ofLine_text_and_unescape :
    (∀ l : MountLine, MountEntry.ofLine l.text = .ok l.entry) ∧
      (∀ cs, unescapedField (escapedField cs) = cs) ∧
      ∀ bytes, Octal.Cursor.run bytes = .ok (Octal.unescape bytes) :=
  ⟨ofLine_text, unescapedField_escapedField, Octal.Cursor.run_eq⟩

/-- A mount with a space in its path, two optional fields and no name for its source. -/
def spacedMount : MountLine where
  number := "41".toList
  parent := "30".toList
  device := "0:36".toList
  root := "/docker"
  mountPoint := "/mnt/my dir"
  options := "rw".toList
  optional := ["shared:20".toList, "master:3".toList]
  fileSystem := "cgroup"
  source := []
  superOptions := ["rw", "devices"]
  spaceless := by decide
  no_dash := by decide
  superOptions_ne_nil := by decide
  separable := by decide

theorem ofLine_text_and_unescape_spacedMount :
    MountEntry.ofLine
        "41 30 0:36 /docker /mnt/my\\040dir rw shared:20 master:3 - cgroup  rw,devices".toList
      = .ok ⟨"/docker", "/mnt/my dir", "cgroup", ["rw", "devices"]⟩ := by
  have htext : spacedMount.text
      = "41 30 0:36 /docker /mnt/my\\040dir rw shared:20 master:3 - cgroup  rw,devices".toList :=
    by decide
  rw [← htext]
  exact ofLine_text_and_unescape.1 spacedMount

end MountLine

end DeviceFilter
