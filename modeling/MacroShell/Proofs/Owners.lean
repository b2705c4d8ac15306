import MacroShell.Registry

/-! # Owners of opcodes

A registry lists its verbs and finds them through an index of positions in the list.  A registration writes
the position at which the verb is going to stand, and then adds the verb.  However often opcodes and whole
groups of verbs are registered again, the index leads to the latest verb that has the opcode, and the verbs
that have lost their opcodes stay in the list.
-/

namespace MacroShell

/-- The verb at the position has the opcode, and no verb behind it has. -/
structure LatestOwner (entries : List VerbEntry) (opcode : Char) (index : Nat) (entry : VerbEntry) : Prop where
  listed : entries[index]? = some entry
  owned : opcode ∈ entry.aliases
  last : ∀ later ∈ entries.drop (index + 1), opcode ∉ later.aliases

namespace LatestOwner

variable {entries : List VerbEntry} {opcode : Char} {index : Nat} {entry found : VerbEntry}

theorem listed_concat_iff : (entries ++ [entry])[index]? = some found ↔
    entries[index]? = some found ∨ index = entries.length ∧ found = entry := by
  rw [List.getElem?_append, List.getElem?_singleton]
  grind

/-- A verb at the end takes over the opcodes that it has. -/
theorem concat_taken (taken : opcode ∈ entry.aliases) :
    LatestOwner (entries ++ [entry]) opcode index found ↔ index = entries.length ∧ found = entry := by
  constructor
  · rintro ⟨listed, owned, last⟩
    refine (listed_concat_iff.mp listed).resolve_left fun old => ?_
    obtain ⟨before, -⟩ := List.getElem?_eq_some_iff.mp old
    have behind : entry ∈ (entries ++ [entry]).drop (index + 1) := by
      rw [List.drop_append_of_le_length before]
      exact List.mem_append_right _ List.mem_cons_self
    exact last entry behind taken
  · rintro ⟨rfl, rfl⟩
    exact ⟨listed_concat_iff.mpr (.inr ⟨rfl, rfl⟩), taken, by simp⟩

/-- A verb at the end leaves the other opcodes with their owners. -/
theorem concat_free (free : opcode ∉ entry.aliases) :
    LatestOwner (entries ++ [entry]) opcode index found ↔ LatestOwner entries opcode index found := by
  constructor
  · rintro ⟨listed, owned, last⟩
    rcases listed_concat_iff.mp listed with old | ⟨-, rfl⟩
    · refine ⟨old, owned, fun later member => last later ?_⟩
      rw [List.drop_append]
      exact List.mem_append_left _ member
    · exact absurd owned free
  · rintro ⟨listed, owned, last⟩
    refine ⟨listed_concat_iff.mpr (.inl listed), owned, fun later member => ?_⟩
    rw [List.drop_append] at member
    rcases List.mem_append.mp member with old | new
    · exact last later old
    · rwa [List.mem_singleton.mp (List.mem_of_mem_drop new)]

theorem exists_iff : (∃ index found, LatestOwner entries opcode index found) ↔
    ∃ entry ∈ entries, opcode ∈ entry.aliases := by
  constructor
  · rintro ⟨index, found, latest⟩
    exact ⟨found, List.mem_of_getElem? latest.listed, latest.owned⟩
  · induction entries with
    | nil => simp
    | cons entry entries ih =>
        intro owner
        -- The verb in front is the latest owner only if there is none in the rest.
        by_cases later : ∃ entry ∈ entries, opcode ∈ entry.aliases
        · obtain ⟨index, found, listed, owned, last⟩ := ih later
          exact ⟨index + 1, found, listed, owned, last⟩
        · have here : opcode ∈ entry.aliases := by simpa [later] using owner
          exact ⟨0, entry, rfl, here, by simpa using later⟩

end LatestOwner

namespace Registry

variable {registry : Registry}

theorem entries_register (registry : Registry) (entry : VerbEntry) :
    (registry.register entry).entries.toList = registry.entries.toList ++ [entry] := Array.toList_push

theorem entries_registerAll (registry : Registry) (entries : List VerbEntry) :
    (registry.registerAll entries).entries.toList = registry.entries.toList ++ entries := by
  induction entries generalizing registry with
  | nil => simp [registerAll]
  | cons entry entries ih =>
      have rest := ih (registry.register entry)
      simpa [registerAll, register] using rest

/-- Every opcode in the index leads to a verb that has it. -/
def Sound (registry : Registry) : Prop :=
  ∀ opcode index, (opcode, index) ∈ registry.owners →
    ∃ entry, registry.entries[index]? = some entry ∧ opcode ∈ entry.aliases

theorem Sound.register (sound : registry.Sound) (entry : VerbEntry) : (registry.register entry).Sound := by
  intro opcode index member
  rcases List.mem_append.mp member with new | old
  · obtain ⟨opcode, owned, same⟩ := List.mem_map.mp new
    cases same
    exact ⟨entry, Array.getElem?_push_size, owned⟩
  · obtain ⟨other, found, owned⟩ := sound opcode index old
    obtain ⟨below, -⟩ := Array.getElem?_eq_some_iff.mp found
    exact ⟨other, by rw [Registry.register, Array.getElem?_push_lt below, ← found]; simp, owned⟩

theorem Sound.registerAll (sound : registry.Sound) (entries : List VerbEntry) :
    (registry.registerAll entries).Sound :=
  List.foldlRecOn entries Registry.register sound fun _ kept entry _ => kept.register entry

/-! ## The latest owner -/

/-- The index leads to the latest owners, and to all of them. -/
def Current (registry : Registry) : Prop :=
  ∀ opcode index, registry.owners.lookup opcode = some index ↔
    ∃ entry, LatestOwner registry.entries.toList opcode index entry

theorem lookup_map_position (aliases : List Char) (position : Nat) (opcode : Char) :
    (aliases.map (·, position)).lookup opcode = if opcode ∈ aliases then some position else none := by
  induction aliases with
  | nil => rfl
  | cons first aliases ih =>
      rw [List.map_cons, List.lookup_cons, ih]
      by_cases here : opcode = first
      · simp [here]
      · simp [here, beq_false_of_ne here]

theorem lookup_owners_register (registry : Registry) (entry : VerbEntry) (opcode : Char) :
    (registry.register entry).owners.lookup opcode =
      if opcode ∈ entry.aliases then some registry.entries.size else registry.owners.lookup opcode := by
  rw [register, List.lookup_append, lookup_map_position]
  split <;> rfl

theorem Current.register (current : registry.Current) (entry : VerbEntry) :
    (registry.register entry).Current := by
  intro opcode index
  rw [entries_register, lookup_owners_register]
  by_cases taken : opcode ∈ entry.aliases
  · -- The position is written before the verb is added, and is the one that the verb gets.
    simp [taken, LatestOwner.concat_taken taken, eq_comm]
  · simp only [taken, if_false, LatestOwner.concat_free taken, current opcode index]

theorem Current.registerAll (current : registry.Current) (entries : List VerbEntry) :
    (registry.registerAll entries).Current :=
  List.foldlRecOn entries Registry.register current fun _ kept entry _ => kept.register entry

theorem Current.lookup_eq_some_iff (current : registry.Current) {opcode : Char} {entry : VerbEntry} :
    registry.lookup opcode = some entry ↔ ∃ index, LatestOwner registry.entries.toList opcode index entry := by
  simp only [lookup, Option.bind_eq_some_iff, current opcode, ← Array.getElem?_toList]
  constructor
  · rintro ⟨index, ⟨found, latest⟩, listed⟩
    obtain rfl := Option.some.inj (latest.listed.symm.trans listed)
    exact ⟨index, latest⟩
  · rintro ⟨index, latest⟩
    exact ⟨index, ⟨entry, latest⟩, latest.listed⟩

theorem Current.lookup_eq_none_iff (current : registry.Current) {opcode : Char} :
    registry.lookup opcode = none ↔ ∀ entry ∈ registry.entries.toList, opcode ∉ entry.aliases := by
  rw [Option.eq_none_iff_forall_ne_some]
  simp only [ne_eq, current.lookup_eq_some_iff]
  rw [← not_exists, exists_comm, LatestOwner.exists_iff]
  simp

theorem sound_empty : empty.Sound := by
  simp [Sound, empty]

theorem current_empty : empty.Current := by
  intro opcode index
  refine iff_of_false (by simp [empty]) ?_
  rintro ⟨entry, listed, -⟩
  simp [empty] at listed

theorem current_builtin : builtin.Current := current_empty.registerAll VerbEntry.builtins

/-- A verb is selected by one of its own opcodes only. -/
theorem mem_of_lookup {opcode : Char} {entry : VerbEntry} (found : builtin.lookup opcode = some entry) :
    entry ∈ VerbEntry.builtins ∧ opcode ∈ entry.aliases := by
  obtain ⟨index, latest⟩ := current_builtin.lookup_eq_some_iff.mp found
  have listed : builtin.entries.toList = VerbEntry.builtins := entries_registerAll empty VerbEntry.builtins
  rw [← listed]
  exact ⟨List.mem_of_getElem? latest.listed, latest.owned⟩

/-- What has been registered, verb by verb or in groups, is listed once for every registration and in that order,
    and every position in the index is one of the list.  So looking an opcode up never misses the list: it gives
    the verb at the position that the index holds, which is the latest one that has the opcode, and it gives
    nothing exactly if no verb has the opcode. -/
theorem registered (entries : List VerbEntry) :
    let registry := empty.registerAll entries
    registry.entries.toList = entries ∧
    (∀ groups : List (List VerbEntry), groups.flatten = entries → groups.foldl registerAll empty = registry) ∧
    (∀ opcode index, (opcode, index) ∈ registry.owners → index < registry.entries.size) ∧
    (∀ opcode index, registry.owners.lookup opcode = some index →
      ∃ listed : index < registry.entries.size, registry.lookup opcode = some registry.entries[index]) ∧
    (∀ opcode index, registry.owners.lookup opcode = some index ↔
      ∃ entry, LatestOwner entries opcode index entry) ∧
    (∀ opcode entry, registry.lookup opcode = some entry ↔ ∃ index, LatestOwner entries opcode index entry) ∧
    ∀ opcode, registry.lookup opcode = none ↔ ∀ entry ∈ entries, opcode ∉ entry.aliases := by
  intro registry
  have listed : registry.entries.toList = entries := entries_registerAll empty entries
  have sound : registry.Sound := sound_empty.registerAll entries
  have current : registry.Current := current_empty.registerAll entries
  have inRange (opcode : Char) (index : Nat) (owner : (opcode, index) ∈ registry.owners) :
      index < registry.entries.size := by
    obtain ⟨entry, found, -⟩ := sound opcode index owner
    exact (Array.getElem?_eq_some_iff.mp found).1
  refine ⟨listed, ?_, inRange, ?_, ?_, ?_, ?_⟩
  · rintro groups rfl
    exact List.foldl_flatten.symm
  · intro opcode index owner
    obtain ⟨before, after, split, -⟩ := List.lookup_eq_some_iff.mp owner
    have bound : index < registry.entries.size := inRange opcode index (by simp [split])
    exact ⟨bound, by rw [lookup, owner, Option.bind_some, Array.getElem?_eq_getElem bound]⟩
  · intro opcode index
    rw [current, listed]
  · intro opcode entry
    rw [current.lookup_eq_some_iff, listed]
  · intro opcode
    rw [current.lookup_eq_none_iff, listed]

/-- The verbs of the device are registered twice, with a verb in between that takes two opcodes, one of them
    twice, and loses both again to the groups behind it.  It keeps the third, and it stays in the list. -/
theorem registered_again :
    let spare : VerbEntry :=
      { verb := .print, aliases := ['C', '*', 'z', 'C'], name := "SPARE", usage := "SPARE <text>",
        description := "Prints text", arity := .atLeast 1 }
    let groups := [VerbEntry.deviceVerbs, [spare], VerbEntry.loopVerbs, VerbEntry.deviceVerbs]
    let registry := groups.foldl registerAll empty
    registry.entries.toList = groups.flatten ∧ registry.owners.lookup 'C' = some 13 ∧
    (∃ listed : 13 < registry.entries.size, registry.lookup 'C' = some registry.entries[13]) ∧
    registry.owners.lookup '*' = some 10 ∧ registry.lookup 'z' = some spare ∧ registry.lookup '?' = none := by
  intro spare groups registry
  obtain ⟨listed, grouped, -, found, owner, latest, unknown⟩ := registered groups.flatten
  have same : registry = empty.registerAll groups.flatten := grouped groups rfl
  have click : ∃ entry, LatestOwner groups.flatten 'C' 13 entry := ⟨_, rfl, by decide, by decide⟩
  have repetition : ∃ entry, LatestOwner groups.flatten '*' 10 entry := ⟨_, rfl, by decide, by decide⟩
  have kept : LatestOwner groups.flatten 'z' 9 spare := ⟨rfl, by decide, by decide⟩
  rw [same]
  have clicks := (owner 'C' 13).mpr click
  exact ⟨listed, clicks, found 'C' 13 clicks, (owner '*' 10).mpr repetition,
    (latest 'z' spare).mpr ⟨9, kept⟩, (unknown '?').mpr (by decide)⟩

end Registry

end MacroShell
