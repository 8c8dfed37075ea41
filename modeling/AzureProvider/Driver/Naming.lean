import AzureProvider.Types
import Mathlib.Data.List.Nodup

/-! # Names of dependent resources

The driver never stores which NIC and disks belong to a virtual machine: it
derives their names from the machine's name each time, once to create them and
again to delete them. This module embeds that naming and settles which names can
coincide.
-/

namespace AzureProvider

def nicSuffix : String := "-nic"
def diskSuffix : String := "-os-disk"
def dataDiskSuffix : String := "-data-disk"

def dependencyNameFromVMName (vmName suffix : String) : String :=
  vmName ++ suffix

def dependencyNameFromVMNameAndDependency (dependency vmName suffix : String) : String :=
  vmName ++ "-" ++ dependency ++ suffix

/-- `getAzureDataDiskPrefix(name, lun)`; its callers never pass a `nil` LUN, so
the model takes the LUN itself. -/
def getAzureDataDiskPrefix (name : String) (lun : Int32) : String :=
  if name ≠ "" then name ++ "-" ++ formatInt32 lun else formatInt32 lun

/-- `getAzureDataDiskNames`: a slice of `len(azureDataDisks)` empty names, whose
slot `i` the loop fills from disk `i`, with LUN `int32(i)` when the disk has none. -/
def getAzureDataDiskNames (azureDataDisks : List AzureDataDisk) (vmname suffix : String) :
    List String :=
  loop 0 azureDataDisks (List.replicate azureDataDisks.length "")
where
  loop (i : Nat) : List AzureDataDisk → List String → List String
    | [], azureDataDiskNames => azureDataDiskNames
    | disk :: rest, azureDataDiskNames =>
        let diskLun := disk.lun.getD (BitVec.ofNat 32 i)
        loop (i + 1) rest (azureDataDiskNames.set i
          (dependencyNameFromVMNameAndDependency (getAzureDataDiskPrefix disk.name diskLun)
            vmname suffix))

/-- The name the loop gives the disk at position `i`. -/
def dataDiskName (vmname suffix : String) (i : Nat) (disk : AzureDataDisk) : String :=
  dependencyNameFromVMNameAndDependency
    (getAzureDataDiskPrefix disk.name (disk.lun.getD (BitVec.ofNat 32 i))) vmname suffix

/-! ## The loop -/

private theorem getAzureDataDiskNames_loop (vmname suffix : String) :
    ∀ (disks : List AzureDataDisk) (filled rest : List String), rest.length = disks.length →
      getAzureDataDiskNames.loop vmname suffix filled.length disks (filled ++ rest) =
        filled ++ disks.mapIdx fun j disk => dataDiskName vmname suffix (filled.length + j) disk
  | [], filled, rest, sized => by
      simp only [List.length_nil, List.length_eq_zero] at sized
      simp [getAzureDataDiskNames.loop, sized]
  | disk :: disks, filled, rest, sized => by
      obtain ⟨slot, rest, rfl⟩ := List.exists_cons_of_length_eq_add_one sized
      have written : (filled ++ slot :: rest).set filled.length
          (dataDiskName vmname suffix filled.length disk) =
          (filled ++ [dataDiskName vmname suffix filled.length disk]) ++ rest := by
        simp [List.set_append_right]
      have shifted := getAzureDataDiskNames_loop vmname suffix disks
        (filled ++ [dataDiskName vmname suffix filled.length disk]) rest (by simpa using sized)
      simp only [getAzureDataDiskNames.loop]
      rw [show dependencyNameFromVMNameAndDependency _ vmname suffix =
        dataDiskName vmname suffix filled.length disk from rfl, written]
      simp only [List.length_append, List.length_singleton] at shifted
      rw [shifted, List.mapIdx_cons, List.append_assoc]
      simp [Nat.add_assoc, Nat.add_comm 1]

/-- The loop fills every slot: the name of disk `i` sits at position `i`. -/
theorem getAzureDataDiskNames_eq_mapIdx (azureDataDisks : List AzureDataDisk)
    (vmname suffix : String) :
    getAzureDataDiskNames azureDataDisks vmname suffix =
      azureDataDisks.mapIdx (dataDiskName vmname suffix) := by
  simpa using getAzureDataDiskNames_loop vmname suffix azureDataDisks []
    (List.replicate azureDataDisks.length "") (by simp)

/-! ## When two data-disk names coincide -/

private theorem eq_nil_of_formatInt32 {rest tail : List Char} {lun : Int32}
    (text : (formatInt32 lun).data = rest ++ '-' :: tail) : rest = [] := by
  cases rest with
  | nil => rfl
  | cons first rest =>
      have clean := minus_not_mem_formatInt32_tail lun
      simp [text] at clean

private theorem getAzureDataDiskPrefix_data (name : String) (lun : Int32) :
    (getAzureDataDiskPrefix name lun).data =
      if name = "" then (formatInt32 lun).data else name.data ++ '-' :: (formatInt32 lun).data := by
  by_cases unnamed : name = "" <;> simp [getAzureDataDiskPrefix, unnamed]

private theorem string_eq_empty {name : String} (empty : name.data = []) : name = "" :=
  String.ext empty

/-- Where two texts each have a separator `c` after their head, the heads are
equal, or one head is the other followed by `c` and more. -/
theorem append_cons_eq_append_cons {first second rest rest' : List Char} {c : Char}
    (same : first ++ c :: rest = second ++ c :: rest') :
    first = second ∧ rest = rest' ∨
      (∃ extra, second = first ++ c :: extra ∧ rest = extra ++ c :: rest') ∨
      ∃ extra, first = second ++ c :: extra ∧ rest' = extra ++ c :: rest := by
  rcases List.append_eq_append_iff.mp same with ⟨extra, longer, tail⟩ | ⟨extra, longer, tail⟩
  · cases extra with
    | nil => exact .inl ⟨by simpa using longer.symm, by simpa using tail⟩
    | cons separator extra =>
        obtain ⟨rfl, shifted⟩ := List.cons.inj tail
        exact .inr (.inl ⟨extra, longer, shifted⟩)
  · cases extra with
    | nil => exact .inl ⟨by simpa using longer, by simpa using tail.symm⟩
    | cons separator extra =>
        obtain ⟨rfl, shifted⟩ := List.cons.inj tail
        exact .inr (.inr ⟨extra, longer, shifted⟩)

/-- The (name, LUN) pair the loop formats for each disk: a disk without a LUN
takes its position. -/
def effectiveNameLuns (azureDataDisks : List AzureDataDisk) : List (String × Int32) :=
  azureDataDisks.mapIdx fun i disk => (disk.name, disk.lun.getD (BitVec.ofNat 32 i))

/-- The second pair is named as the first followed by `-`, and has the opposite
of the first's negative LUN: `("a", -1)` and `("a-", 1)` both give `a--1`. -/
def SeparatorClash (first second : String × Int32) : Prop :=
  first.1 ≠ "" ∧ second.1 = first.1 ++ "-" ∧ first.2.toInt < 0 ∧
    second.2.toInt = -first.2.toInt

instance (first second : String × Int32) : Decidable (SeparatorClash first second) := by
  unfold SeparatorClash
  infer_instance

private theorem length_append_minus (name : String) : (name ++ "-").length = name.length + 1 := by
  rw [String.length_append]
  rfl

private theorem append_minus_ne_empty (name : String) : name ++ "-" ≠ "" := fun empty => by
  have lengths := congrArg String.length empty
  rw [length_append_minus] at lengths
  exact Nat.succ_ne_zero _ lengths

theorem SeparatorClash.ne {first second : String × Int32} (clash : SeparatorClash first second) :
    first ≠ second := by
  rintro rfl
  have lengths := congrArg String.length clash.2.1
  rw [length_append_minus] at lengths
  omega

/-- Two prefixes coincide exactly for the same name and LUN, or for a
separator clash either way. -/
theorem getAzureDataDiskPrefix_eq_iff {name name' : String} {lun lun' : Int32} :
    getAzureDataDiskPrefix name lun = getAzureDataDiskPrefix name' lun' ↔
      (name, lun) = (name', lun') ∨ SeparatorClash (name, lun) (name', lun') ∨
        SeparatorClash (name', lun') (name, lun) := by
  rw [String.ext_iff, getAzureDataDiskPrefix_data, getAzureDataDiskPrefix_data]
  constructor
  · intro texts
    split_ifs at texts with unnamed unnamed' unnamed''
    · exact .inl (Prod.ext (unnamed.trans unnamed'.symm) (formatInt32_injective (String.ext texts)))
    · exact absurd (string_eq_empty (eq_nil_of_formatInt32 texts)) unnamed'
    · exact absurd (string_eq_empty (eq_nil_of_formatInt32 texts.symm)) unnamed
    · rcases append_cons_eq_append_cons texts with ⟨names, luns⟩ | ⟨extra, longer, rest⟩ |
        ⟨extra, longer, rest⟩
      · exact .inl (Prod.ext (String.ext names) (formatInt32_injective (String.ext luns)))
      · obtain rfl := eq_nil_of_formatInt32 rest
        exact .inr (.inl ⟨unnamed, String.ext (by simpa using longer),
          formatInt32_eq_minus_cons_iff.mp rest⟩)
      · obtain rfl := eq_nil_of_formatInt32 rest
        exact .inr (.inr ⟨unnamed'', String.ext (by simpa using longer),
          formatInt32_eq_minus_cons_iff.mp rest⟩)
  · rintro (same | ⟨named, rfl, minus⟩ | ⟨named, rfl, minus⟩)
    · cases same
      rfl
    · simp [named, append_minus_ne_empty, formatInt32_eq_minus_cons_iff.mpr minus]
    · simp [named, append_minus_ne_empty, formatInt32_eq_minus_cons_iff.mpr minus]

/-- Two lists of disks with distinct (name, LUN) pairs as supplied, each of
which derives one name twice. In the first, the disk without a LUN takes its
position 0, which the other disk states. In the second, the `-` before the LUN
`-1` also reads as the last letter of the name `a-`. -/
theorem getAzureDataDiskNames_collisions :
    let positional : List AzureDataDisk :=
      [⟨"", none, "", "Standard_LRS", 50⟩, ⟨"", some 0, "", "Standard_LRS", 50⟩]
    let separated : List AzureDataDisk :=
      [⟨"a", some (-1), "", "Standard_LRS", 50⟩, ⟨"a-", some 1, "", "Standard_LRS", 50⟩]
    (positional.map fun disk => (disk.name, disk.lun)).Nodup ∧
      getAzureDataDiskNames positional "vm" dataDiskSuffix = ["vm-0-data-disk", "vm-0-data-disk"] ∧
      (separated.map fun disk => (disk.name, disk.lun)).Nodup ∧
      getAzureDataDiskNames separated "vm" dataDiskSuffix =
        ["vm-a--1-data-disk", "vm-a--1-data-disk"] := by
  decide

private theorem dependencyNameFromVMNameAndDependency_inj
    {dependency dependency' vmName suffix : String}
    (same : dependencyNameFromVMNameAndDependency dependency vmName suffix =
      dependencyNameFromVMNameAndDependency dependency' vmName suffix) :
    dependency = dependency' :=
  String.ext (by simpa [dependencyNameFromVMNameAndDependency] using congrArg String.data same)

theorem mapIdx_dataDiskName (vmname suffix : String) (azureDataDisks : List AzureDataDisk) :
    azureDataDisks.mapIdx (dataDiskName vmname suffix) =
      (effectiveNameLuns azureDataDisks).map fun pair =>
        dependencyNameFromVMNameAndDependency (getAzureDataDiskPrefix pair.1 pair.2)
          vmname suffix := by
  simp only [effectiveNameLuns, List.mapIdx_eq_enum_map, List.map_map]
  rfl

/-- Data-disk names are pairwise distinct exactly when the effective (name, LUN)
pairs are and no two of them clash at the separator. -/
theorem getAzureDataDiskNames_nodup (vmname suffix : String)
    (azureDataDisks : List AzureDataDisk) :
    (getAzureDataDiskNames azureDataDisks vmname suffix).Nodup ↔
      (effectiveNameLuns azureDataDisks).Nodup ∧ ∀ first ∈ effectiveNameLuns azureDataDisks,
        ∀ second ∈ effectiveNameLuns azureDataDisks, ¬ SeparatorClash first second := by
  rw [getAzureDataDiskNames_eq_mapIdx, mapIdx_dataDiskName]
  constructor
  · intro distinct
    refine ⟨distinct.of_map _, fun first firstMember second secondMember clash => ?_⟩
    exact clash.ne (List.inj_on_of_nodup_map distinct firstMember secondMember
      (congrArg (dependencyNameFromVMNameAndDependency · vmname suffix)
        (getAzureDataDiskPrefix_eq_iff.mpr (.inr (.inl clash)))))
  · rintro ⟨distinct, unclashed⟩
    refine distinct.map_on fun first firstMember second secondMember same => ?_
    rcases getAzureDataDiskPrefix_eq_iff.mp (dependencyNameFromVMNameAndDependency_inj same) with
      same | clash | clash
    · exact same
    · exact absurd clash (unclashed first firstMember second secondMember)
    · exact absurd clash (unclashed second secondMember first firstMember)

/-- A name and the same name followed by `-`, with positive LUNs, derive
distinct names. -/
theorem getAzureDataDiskNames_nodup_separated :
    (getAzureDataDiskNames
      [⟨"a", some 1, "", "Standard_LRS", 50⟩, ⟨"a-", some 2, "", "Standard_LRS", 50⟩]
      "vm" dataDiskSuffix).Nodup :=
  (getAzureDataDiskNames_nodup _ _ _).mpr ⟨by decide, by decide⟩

/-! ## Names of two machines -/

/-- The two machines `a` and `a-b` (both their own lowercase form), the first
with a data disk named `b` at LUN 0 and the second with an unnamed one: both
derive `a-b-0-data-disk`. -/
theorem dependentNames_shared :
    let first : List AzureDataDisk := [⟨"b", some 0, "", "Standard_LRS", 50⟩]
    let second : List AzureDataDisk := [⟨"", none, "", "Standard_LRS", 50⟩]
    "a" ≠ "a-b" ∧
      "a-b-0-data-disk" ∈ dependencyNameFromVMName "a" nicSuffix ::
        dependencyNameFromVMName "a" diskSuffix :: getAzureDataDiskNames first "a" dataDiskSuffix ∧
      "a-b-0-data-disk" ∈ dependencyNameFromVMName "a-b" nicSuffix ::
        dependencyNameFromVMName "a-b" diskSuffix ::
          getAzureDataDiskNames second "a-b" dataDiskSuffix := by
  decide

/-- A name derived from the VM name `vmName`, in one of the three shapes. -/
private def DerivedFrom (vmName name : String) : Prop :=
  name.data = vmName.data ++ nicSuffix.data ∨ name.data = vmName.data ++ diskSuffix.data ∨
    ∃ dependency : String, name.data = vmName.data ++ '-' :: dependency.data ++ dataDiskSuffix.data

private theorem derivedFrom_of_mem {vmName name : String} {disks : List AzureDataDisk}
    (member : name ∈ dependencyNameFromVMName vmName nicSuffix ::
      dependencyNameFromVMName vmName diskSuffix ::
        getAzureDataDiskNames disks vmName dataDiskSuffix) :
    DerivedFrom vmName name := by
  rw [getAzureDataDiskNames_eq_mapIdx] at member
  rcases List.mem_cons.mp member with rfl | member
  · exact .inl (String.data_append _ _)
  rcases List.mem_cons.mp member with rfl | member
  · exact .inr (.inl (String.data_append _ _))
  obtain ⟨i, within, rfl⟩ := List.mem_mapIdx.mp member
  exact .inr (.inr ⟨getAzureDataDiskPrefix disks[i].name
    (disks[i].lun.getD (BitVec.ofNat 32 i)), by simp [dataDiskName,
      dependencyNameFromVMNameAndDependency]⟩)

/-- Names ending in suffixes neither of which ends the other are different. -/
private theorem ne_of_suffixes {first second firstSuffix secondSuffix : List Char}
    (unrelated : ¬ firstSuffix <:+ secondSuffix ∧ ¬ secondSuffix <:+ firstSuffix)
    (same : first ++ firstSuffix = second ++ secondSuffix) : False := by
  rcases List.suffix_or_suffix_of_suffix (List.suffix_append first firstSuffix)
    (same ▸ List.suffix_append second secondSuffix) with related | related
  · exact unrelated.1 related
  · exact unrelated.2 related

/-- A name derived from two different VM names is a data-disk name of both, and
one VM name is the other followed by `-` and more. -/
private theorem derivedFrom_both {first second name : String}
    (fromFirst : DerivedFrom first name) (fromSecond : DerivedFrom second name) :
    first = second ∨ (∃ rest : String, second = first ++ "-" ++ rest) ∨
      ∃ rest : String, first = second ++ "-" ++ rest := by
  have nicDisk : ¬ nicSuffix.data <:+ diskSuffix.data ∧ ¬ diskSuffix.data <:+ nicSuffix.data := by
    decide
  have nicData : ¬ nicSuffix.data <:+ dataDiskSuffix.data ∧
      ¬ dataDiskSuffix.data <:+ nicSuffix.data := by decide
  have diskData : ¬ diskSuffix.data <:+ dataDiskSuffix.data ∧
      ¬ dataDiskSuffix.data <:+ diskSuffix.data := by decide
  rcases fromFirst with first' | first' | ⟨dependency, first'⟩ <;>
    rcases fromSecond with second' | second' | ⟨dependency', second'⟩
  · exact .inl (String.ext (List.append_cancel_right (first'.symm.trans second')))
  · exact (ne_of_suffixes nicDisk (first'.symm.trans second')).elim
  · exact (ne_of_suffixes nicData (first'.symm.trans second')).elim
  · exact (ne_of_suffixes nicDisk (second'.symm.trans first')).elim
  · exact .inl (String.ext (List.append_cancel_right (first'.symm.trans second')))
  · exact (ne_of_suffixes diskData (first'.symm.trans second')).elim
  · exact (ne_of_suffixes nicData (second'.symm.trans first')).elim
  · exact (ne_of_suffixes diskData (second'.symm.trans first')).elim
  · have same : first.data ++ '-' :: dependency.data = second.data ++ '-' :: dependency'.data :=
      List.append_cancel_right (first'.symm.trans second')
    rcases append_cons_eq_append_cons same with ⟨names, -⟩ | ⟨extra, longer, -⟩ | ⟨extra, longer, -⟩
    · exact .inl (String.ext names)
    · exact .inr (.inl ⟨⟨extra⟩, String.ext (by simpa using longer)⟩)
    · exact .inr (.inr ⟨⟨extra⟩, String.ext (by simpa using longer)⟩)

/-- Two machines derive disjoint sets of NIC, OS-disk and data-disk names when
their VM names differ and neither is the other followed by `-` and more. -/
theorem dependentNames_disjoint (first second : String)
    (firstDisks secondDisks : List AzureDataDisk) (differ : first ≠ second)
    (firstNotPrefix : ∀ rest : String, second ≠ first ++ "-" ++ rest)
    (secondNotPrefix : ∀ rest : String, first ≠ second ++ "-" ++ rest) :
    List.Disjoint
      (dependencyNameFromVMName first nicSuffix :: dependencyNameFromVMName first diskSuffix ::
        getAzureDataDiskNames firstDisks first dataDiskSuffix)
      (dependencyNameFromVMName second nicSuffix :: dependencyNameFromVMName second diskSuffix ::
        getAzureDataDiskNames secondDisks second dataDiskSuffix) := by
  intro name fromFirst fromSecond
  rcases derivedFrom_both (derivedFrom_of_mem fromFirst) (derivedFrom_of_mem fromSecond) with
    same | ⟨rest, longer⟩ | ⟨rest, longer⟩
  · exact differ same
  · exact firstNotPrefix rest longer
  · exact secondNotPrefix rest longer

theorem dependentNames_disjoint_example :
    "vm-1" ≠ "vm-2" ∧ (∀ rest : String, "vm-2" ≠ "vm-1" ++ "-" ++ rest) ∧
      (∀ rest : String, "vm-1" ≠ "vm-2" ++ "-" ++ rest) ∧
      List.Disjoint
        (dependencyNameFromVMName "vm-1" nicSuffix :: dependencyNameFromVMName "vm-1" diskSuffix ::
          getAzureDataDiskNames [⟨"b", some 0, "", "Standard_LRS", 50⟩] "vm-1" dataDiskSuffix)
        (dependencyNameFromVMName "vm-2" nicSuffix :: dependencyNameFromVMName "vm-2" diskSuffix ::
          getAzureDataDiskNames [⟨"", none, "", "Standard_LRS", 50⟩] "vm-2" dataDiskSuffix) := by
  have firstNotPrefix : ∀ rest : String, "vm-2" ≠ "vm-1" ++ "-" ++ rest := fun rest same => by
    have := congrArg (fun name : String => name.data.take 5) same
    simp at this
  have secondNotPrefix : ∀ rest : String, "vm-1" ≠ "vm-2" ++ "-" ++ rest := fun rest same => by
    have := congrArg (fun name : String => name.data.take 5) same
    simp at this
  exact ⟨by decide, firstNotPrefix, secondNotPrefix,
    dependentNames_disjoint _ _ _ _ (by decide) firstNotPrefix secondNotPrefix⟩

end AzureProvider
