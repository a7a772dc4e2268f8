/-
# LatticeSketch.Proofs.Scene.Devices -- which devices are alive after any steps

Only one step puts in objects of a device's kind, and it numbers them from 1
(`mem_ofKind_iff`).  The first crystal of a scene never changes, so a step that places sources
always finds the same ones and replaces all that are there.  The last crystal does change: a
step that places monitors replaces those of its own numbers, and monitors with greater numbers
stay behind from earlier steps (`devices_of_history`).
-/
import LatticeSketch.Proofs.Decimal.Counting
import LatticeSketch.Proofs.Scene.Groups
import LatticeSketch.Proofs.Scene.History

namespace LatticeSketch

set_option autoImplicit false

open CellByCell (reference sources monitors devices)

/-! ## Numbered names -/

theorem mem_deviceNames_iff (label : String) (number count : Nat) :
    label ++ number.repr ∈ deviceNames label count ↔ 1 ≤ number ∧ number ≤ count := by
  unfold deviceNames
  rw [List.mem_map]
  constructor
  · rintro ⟨before, inRange, same⟩
    have equal := Decimal.eq_of_repr_eq ((String.append_right_inj label).1 same)
    have bound := List.mem_range.1 inRange
    omega
  · rintro ⟨one, bound⟩
    refine ⟨number - 1, List.mem_range.2 (by omega), ?_⟩
    rw [Nat.sub_add_cancel one]

theorem nodup_deviceNames (label : String) (count : Nat) : (deviceNames label count).Nodup := by
  refine List.pairwise_map.2 (List.nodup_range.imp ?_)
  intro first second apart same
  have equal := Decimal.eq_of_repr_eq ((String.append_right_inj label).1 same)
  exact apart (Nat.succ.inj equal)

section Devices

variable (kind : Site → Bool) (position : Cell → Point) (cells : List Cell)

theorem length_devices :
    (devices kind position cells).length = cells.countP fun cell => kind cell.site := by
  simp [devices, List.countP_eq_length_filter]

theorem length_sources (crystal : Crystal) :
    (reference crystal).sources.length = siteCount Site.isSource crystal := by
  simp only [reference, sources, length_devices, siteCount]

theorem length_monitors (crystal : Crystal) :
    (reference crystal).monitors.length = siteCount Site.isMonitor crystal := by
  simp only [reference, monitors, length_devices, siteCount]

theorem one_le_index {placement : Placement} (member : placement ∈ devices kind position cells) :
    1 ≤ placement.index := by
  obtain ⟨entry, inside, rfl⟩ := List.mem_map.1 member
  exact List.le_snd_of_mem_zipIdx inside

end Devices

/-! ## Kinds -/

/-- The objects of a kind that are alive. -/
def Session.ofKind (session : Session) (kind : ObjectKind) : List SceneObject :=
  session.objects.filter fun object => object.kind == kind

theorem Session.mem_ofKind {session : Session} {kind : ObjectKind} {object : SceneObject} :
    object ∈ session.ofKind kind ↔ object ∈ session.objects ∧ object.kind = kind := by
  simp [ofKind]

namespace Assembly

/-- What makes a step the one that places devices of a kind: no other step puts in objects of
the kind, and it gives them distinct names. -/
structure Places (step : Step) (kind : ObjectKind) : Prop where
  kinds : step.kinds = [kind]
  only : ∀ other : Step, kind ∈ other.kinds → other = step
  distinct : ∀ (settings : Settings) (layout : Layout),
    ((layout.objects settings step).map SceneObject.name).Nodup

theorem places_sources : Places .sources .modeSource where
  kinds := rfl
  only other member := by cases other <;> simp_all [Step.kinds]
  distinct settings layout := by
    rw [map_name_sources]
    exact nodup_deviceNames _ _

theorem places_monitors : Places .monitors .powerMonitor where
  kinds := rfl
  only other member := by cases other <;> simp_all [Step.kinds]
  distinct settings layout := by
    rw [map_name_monitors]
    exact nodup_deviceNames _ _

section Placed

variable {step : Step} {kind : ObjectKind} (places : Places step kind)

include places

/-- A device is alive if its step has put it in and no later step an object of its name. -/
theorem mem_ofKind_iff (settings : Settings) (steps : List Step) (object : SceneObject) :
    object ∈ (history settings steps).session.ofKind kind ↔
      ∃ earlier later, steps = earlier ++ step :: later ∧
        object ∈ (history settings earlier).written step ∧
        object.name ∉ (((history settings earlier).perform step).assembly.writes later).map
          SceneObject.name := by
  have kept : ∀ assembly : Assembly, lastOfNames (assembly.written step) = assembly.written step := by
    intro assembly
    unfold written
    split
    · exact lastOfNames_of_nodup (places.distinct _ _)
    · rfl
  have kinds : ∀ (assembly : Assembly) (other : Step), ∀ object ∈ assembly.written other,
      object.kind ∈ other.kinds := by
    intro assembly other object member
    unfold written at member
    split at member
    · exact kind_objects _ _ _ object member
    · simp at member
  rw [Session.mem_ofKind, mem_objects_iff]
  constructor
  · rintro ⟨⟨earlier, other, later, rfl, last, free⟩, sameKind⟩
    have member := mem_of_mem_lastOfNames last
    obtain rfl := places.only other (sameKind ▸ kinds _ _ _ member)
    exact ⟨earlier, later, rfl, member, free⟩
  · rintro ⟨earlier, later, rfl, member, free⟩
    refine ⟨⟨earlier, step, later, rfl, ?_, free⟩, ?_⟩
    · rwa [kept]
    · have sameKind := kinds _ _ _ member
      rwa [places.kinds, List.mem_singleton] at sameKind

/-- A step that places devices leaves those of other names and puts its own behind them. -/
theorem ofKind_perform {assembly : Assembly} {reply : Reply}
    (done : (assembly.perform step).result = .ok reply) :
    (assembly.perform step).assembly.session.ofKind kind =
      without ((assembly.layout.objects assembly.settings step).map SceneObject.name)
          (assembly.session.ofKind kind) ++
        assembly.layout.objects assembly.settings step := by
  have own : (assembly.layout.objects assembly.settings step).filter
      (fun object => object.kind == kind) = assembly.layout.objects assembly.settings step := by
    rw [List.filter_eq_self]
    intro object member
    have sameKind := kind_objects _ _ _ object member
    rw [places.kinds, List.mem_singleton] at sameKind
    simpa using sameKind
  rw [Session.ofKind, (perform_of_ok done).session, Session.objects_upsertAll,
    lastOfNames_of_nodup (places.distinct _ _), List.filter_append, own, without, without,
    Session.ofKind, List.filter_filter, List.filter_filter]
  simp only [Bool.and_comm]

end Placed

/-! ## Replies -/

theorem result_of_map_placed {outcome : Outcome Nat} {count : Nat}
    (done : (outcome.map Reply.placed).result = .ok (.placed count)) :
    outcome.result = .ok count := by
  cases made : outcome.result with
  | error fault => simp [Outcome.map, made, Except.map] at done
  | ok answer => simpa [Outcome.map, made, Except.map] using done

theorem count_of_addDevices {assembly : Assembly} {placing : Placing} {crystal? : Option Crystal}
    {devices : Compiled → List Placement} {object : Crystal → Placement → SceneObject}
    {event : Nat → Event} {count : Nat}
    (done : (assembly.addDevices placing crystal? devices object event).result = .ok count) :
    ∃ crystal, crystal? = some crystal ∧ count = (devices (reference crystal)).length := by
  cases crystal? with
  | none => simp [addDevices] at done
  | some crystal =>
      unfold addDevices at done
      dsimp only at done
      cases made : (assembly.compiler.compile crystal).result with
      | error fault => simp [made] at done
      | ok compiled =>
          obtain rfl := CellByCell.eq_reference_of_compile made
          simp only [made, Except.ok.injEq] at done
          exact ⟨crystal, rfl, done.symm⟩

theorem count_of_sources {assembly : Assembly} {count : Nat}
    (done : (assembly.perform .sources).result = .ok (.placed count)) :
    ∃ first, assembly.crystals.head? = some first ∧ count = siteCount Site.isSource first := by
  obtain ⟨first, found, counted⟩ := count_of_addDevices (result_of_map_placed done)
  exact ⟨first, found, counted.trans (length_sources first)⟩

theorem count_of_monitors {assembly : Assembly} {count : Nat}
    (done : (assembly.perform .monitors).result = .ok (.placed count)) :
    ∃ last, assembly.crystals.getLast? = some last ∧ count = siteCount Site.isMonitor last := by
  obtain ⟨last, found, counted⟩ := count_of_addDevices (result_of_map_placed done)
  exact ⟨last, found, counted.trans (length_monitors last)⟩

/-! ## Devices -/

theorem objects_sources {settings : Settings} {layout : Layout} {first : Crystal}
    (found : layout.crystals.head? = some first) :
    layout.objects settings .sources = sceneSources settings first := by
  unfold Layout.objects
  rw [found]
  rfl

theorem objects_monitors {settings : Settings} {layout : Layout} {last : Crystal}
    (found : layout.crystals.getLast? = some last) :
    layout.objects settings .monitors = sceneMonitors settings last := by
  unfold Layout.objects
  rw [found]
  rfl

/-- Once there is a first crystal it stays the first. -/
theorem head?_history_append {settings : Settings} {earlier : List Step} {first : Crystal}
    (found : (history settings earlier).crystals.head? = some first) (later : List Step) :
    (history settings (earlier ++ later)).crystals.head? = some first := by
  obtain ⟨more, grown⟩ := crystals_performEach (history settings earlier) later
  rw [history, performEach_append]
  change ((history settings earlier).performEach later).crystals.head? = some first
  rw [← grown, List.head?_append, found]
  rfl

theorem written_sources_subset {settings : Settings} {earlier : List Step} {first : Crystal}
    (found : (history settings earlier).crystals.head? = some first) :
    (history settings earlier).written .sources ⊆ sceneSources settings first := by
  unfold written
  split
  · rw [objects_sources found, settings_history]
    exact fun _ => id
  · exact List.nil_subset _

/-- The sources alive before a step that places them are among those that it places. -/
theorem ofKind_sources_subset {settings : Settings} {steps : List Step} {first : Crystal}
    (found : (history settings steps).crystals.head? = some first) :
    (history settings steps).session.ofKind .modeSource ⊆ sceneSources settings first := by
  intro object alive
  obtain ⟨earlier, later, rfl, member, -⟩ := (mem_ofKind_iff places_sources _ _ _).1 alive
  cases standing : (history settings earlier).crystals.head? with
  | none =>
      -- without a crystal nothing is put in
      have nothing : (history settings earlier).layout.objects settings .sources = [] := by
        unfold Layout.objects
        have none : (history settings earlier).layout.crystals.head? = none := standing
        rw [none]
        rfl
      unfold written at member
      rw [settings_history, nothing] at member
      split at member <;> simp at member
  | some other =>
      have same := head?_history_append standing (.sources :: later)
      obtain rfl : other = first := Option.some.inj (same.symm.trans found)
      exact written_sources_subset standing member

theorem placed_of_perform_monitors {assembly : Assembly} {reply : Reply}
    (done : (assembly.perform .monitors).result = .ok reply) : ∃ number, reply = .placed number := by
  obtain ⟨number, made⟩ := result_of_map done
  refine ⟨number, ?_⟩
  have mapped : (assembly.perform .monitors).result = .ok (.placed number) := by
    simp only [perform, Outcome.map, made, Except.map]
  exact Except.ok.inj (done.symm.trans mapped)

/-- The monitors that a step puts in, one by one. -/
theorem mem_written_monitors_iff {assembly : Assembly} {object : SceneObject} :
    object ∈ assembly.written .monitors ↔
      ∃ crystal placement number, assembly.crystals.getLast? = some crystal ∧
        (assembly.perform .monitors).result = .ok (.placed number) ∧
        placement ∈ monitors crystal crystal.grid.drawnCells ∧
        object = sceneMonitor assembly.settings.monitor crystal placement := by
  constructor
  · intro member
    cases made : (assembly.perform .monitors).result with
    | error fault => simp [written, made] at member
    | ok reply =>
        obtain ⟨number, rfl⟩ := placed_of_perform_monitors made
        obtain ⟨crystal, found, -⟩ := count_of_monitors made
        rw [written_of_ok made, objects_monitors found] at member
        obtain ⟨placement, inside, rfl⟩ := List.mem_map.1 member
        exact ⟨crystal, placement, number, found, rfl, inside, rfl⟩
  · rintro ⟨crystal, placement, number, found, made, inside, rfl⟩
    rw [written_of_ok made, objects_monitors found]
    exact List.mem_map_of_mem inside

/-- Whether `object` is a monitor with a number above `count` that a step has put in and no later
one has replaced. -/
def StaysBehind (settings : Settings) (steps : List Step) (count : Nat) (object : SceneObject) :
    Prop :=
  ∃ earlier later crystal placement number,
    steps = earlier ++ .monitors :: later ∧
    ((history settings earlier).perform .monitors).result = .ok (.placed number) ∧
    (history settings earlier).crystals.getLast? = some crystal ∧
    placement ∈ monitors crystal crystal.grid.drawnCells ∧
    object = sceneMonitor settings.monitor crystal placement ∧
    count < placement.index ∧
    object.name ∉ (((history settings earlier).perform .monitors).assembly.writes later).map
      SceneObject.name

theorem mem_without_monitors_iff {settings : Settings} {steps : List Step} {count : Nat}
    {object : SceneObject} :
    object ∈ without (deviceNames "monitor_" count)
        ((history settings steps).session.ofKind .powerMonitor) ↔
      StaysBehind settings steps count object := by
  -- a name is none of the new ones if its number is greater
  have greater : ∀ {crystal : Crystal} {placement : Placement},
      placement ∈ monitors crystal crystal.grid.drawnCells →
      ((sceneMonitor settings.monitor crystal placement).name ∉ deviceNames "monitor_" count ↔
        count < placement.index) := by
    intro crystal placement inside
    have one := one_le_index _ _ _ inside
    change "monitor_" ++ placement.index.repr ∉ deviceNames "monitor_" count ↔ _
    rw [mem_deviceNames_iff]
    omega
  rw [without, List.mem_filter, decide_eq_true_eq, mem_ofKind_iff places_monitors]
  constructor
  · rintro ⟨⟨earlier, later, split, member, free⟩, apart⟩
    obtain ⟨crystal, placement, number, found, made, inside, rfl⟩ :=
      mem_written_monitors_iff.1 member
    rw [settings_history] at apart free ⊢
    exact ⟨earlier, later, crystal, placement, number, split, made, found, inside, rfl,
      (greater inside).1 apart, free⟩
  · rintro ⟨earlier, later, crystal, placement, number, split, made, found, inside, rfl, above,
      free⟩
    refine ⟨⟨earlier, later, split, ?_, free⟩, (greater inside).2 above⟩
    rw [mem_written_monitors_iff, settings_history]
    exact ⟨crystal, placement, number, found, made, inside, rfl⟩

/-- After any steps, a step that places sources leaves exactly those of the first crystal, one at each
of its source sites.  One that places monitors leaves those of the last crystal, one at each of its
monitor sites, and in front of them the monitors with greater numbers that earlier such steps have
put in and no later step has replaced. -/
theorem devices_of_history (settings : Settings) (steps : List Step) (count : Nat) :
    (((history settings steps).perform .sources).result = .ok (.placed count) →
      ∃ first, (history settings steps).crystals.head? = some first ∧
        count = siteCount Site.isSource first ∧
        ((history settings steps).perform .sources).assembly.session.ofKind .modeSource =
          sceneSources settings first) ∧
    (((history settings steps).perform .monitors).result = .ok (.placed count) →
      ∃ last left, (history settings steps).crystals.getLast? = some last ∧
        count = siteCount Site.isMonitor last ∧
        ((history settings steps).perform .monitors).assembly.session.ofKind .powerMonitor =
          left ++ sceneMonitors settings last ∧
        (left.map SceneObject.name).Nodup ∧
        ∀ object, object ∈ left ↔ StaysBehind settings steps count object) := by
  constructor
  · intro done
    obtain ⟨first, found, counted⟩ := count_of_sources done
    refine ⟨first, found, counted, ?_⟩
    have replaced : without ((sceneSources settings first).map SceneObject.name)
        ((history settings steps).session.ofKind .modeSource) = [] := by
      refine List.filter_eq_nil_iff.2 fun object alive => ?_
      have again := List.mem_map_of_mem (f := SceneObject.name) (ofKind_sources_subset found alive)
      simpa using again
    rw [ofKind_perform places_sources done, settings_history, objects_sources found, replaced]
    rfl
  · intro done
    obtain ⟨last, found, counted⟩ := count_of_monitors done
    have names : (sceneMonitors settings last).map SceneObject.name =
        deviceNames "monitor_" count := by
      have placed : (history settings steps).layout.objects settings .monitors =
          sceneMonitors settings last := objects_monitors found
      rw [← placed, map_name_monitors, counted]
      have standing : (history settings steps).layout.crystals.getLast? = some last := found
      rw [standing]
      rfl
    refine ⟨last, without (deviceNames "monitor_" count)
      ((history settings steps).session.ofKind .powerMonitor), found, counted, ?_, ?_,
      fun object => mem_without_monitors_iff⟩
    · rw [ofKind_perform places_monitors done, settings_history, objects_monitors found, names]
    · have part := (List.filter_sublist (p := fun object : SceneObject =>
        object.name ∉ deviceNames "monitor_" count)).trans
        (List.filter_sublist (p := fun object : SceneObject => object.kind == .powerMonitor)
          (l := (history settings steps).session.objects))
      exact (nodup_history settings steps).sublist (part.map SceneObject.name)

/-- A crystal with one source and two monitors, whose devices are placed, and behind it a crystal
with one monitor. -/
def fewerMonitors : List Step :=
  [.crystal ⟨"a", 1, 1, Grid.ofText "s m m \n", 0⟩, .sources, .monitors,
    .crystal ⟨"b", 1, 1, Grid.ofText "m 0 \n", 0⟩]

theorem ok_of_toOption {ε α : Type} {value : Except ε α} {result : α}
    (found : value.toOption = some result) : value = .ok result := by
  cases value with
  | error fault => simp [Except.toOption] at found
  | ok other => simpa [Except.toOption] using found

/-- The second monitor of the first crystal stays behind when those of the second are placed. -/
theorem devices_of_history_fewer :
    (∃ first, (history {} fewerMonitors).crystals.head? = some first ∧
      ((history {} fewerMonitors).perform .sources).assembly.session.ofKind .modeSource =
        sceneSources {} first) ∧
    ∃ object, StaysBehind {} fewerMonitors 1 object := by
  constructor
  · have done : ((history {} fewerMonitors).perform .sources).result = .ok (.placed 1) :=
      ok_of_toOption (by decide +kernel)
    obtain ⟨first, found, -, alive⟩ := (devices_of_history {} fewerMonitors 1).1 done
    exact ⟨first, found, alive⟩
  · have done : ((history {} fewerMonitors).perform .monitors).result = .ok (.placed 1) :=
      ok_of_toOption (by decide +kernel)
    obtain ⟨last, left, found, counted, alive, -, behind⟩ :=
      (devices_of_history {} fewerMonitors 1).2 done
    have two : (((history {} fewerMonitors).perform .monitors).assembly.session.ofKind
        .powerMonitor).length = 2 := by
      decide +kernel
    have one : (monitors last last.grid.drawnCells).length = 1 :=
      (length_monitors last).trans counted.symm
    rw [alive, List.length_append, sceneMonitors, List.length_map, one] at two
    obtain ⟨object, member⟩ := List.exists_mem_of_length_pos (l := left) (by omega)
    exact ⟨object, (behind object).1 member⟩

/-- The monitors alive are not always as many as have been placed last. -/
theorem not_length_monitors_eq :
    ¬ ∀ (settings : Settings) (steps : List Step) (count : Nat),
      ((history settings steps).perform .monitors).result = .ok (.placed count) →
        (((history settings steps).perform .monitors).assembly.session.ofKind
          .powerMonitor).length = count := by
  intro exact_
  have done : ((history {} fewerMonitors).perform .monitors).result = .ok (.placed 1) :=
    ok_of_toOption (by decide +kernel)
  have two : (((history {} fewerMonitors).perform .monitors).assembly.session.ofKind
      .powerMonitor).length = 2 := by
    decide +kernel
  exact absurd (two.symm.trans (exact_ {} fewerMonitors 1 done)) (by decide)

end Assembly

end LatticeSketch
