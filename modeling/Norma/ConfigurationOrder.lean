import Norma.PanelProperties

namespace Norma

open ScpiClient
open Register (cells)

namespace Register

-- The settings that decide what becomes of a value.
def consulted : Register → List Register
  | .single .syncLevel => [.single .syncLevelUnit]
  | _ => []

structure Apart (r other : Register) : Prop where
  touched : ∀ x ∈ r.touched, x ∉ other.touched
  consulted : ∀ x ∈ r.consulted, x ∉ other.touched
  spared : ∀ x ∈ other.consulted, x ∉ r.touched

theorem Apart.symm {r other : Register} (h : r.Apart other) : other.Apart r where
  touched x hother hr := h.touched x hr hother
  consulted := h.spared
  spared := h.consulted

-- What a setting keeps of a value that the driver sends and the instrument accepts.
def kept (options : SimulatorOptions) (memory : Memory) (r : Register) (v : r.Value) :
    Option r.Value :=
  match r.refused v, r.unavailable options, r.verdict options memory v with
  | none, none, .ok kept => some kept
  | _, _, _ => none

variable {options : SimulatorOptions} {memory memory' : Memory}

theorem verdict_consulted (r : Register) (h : ∀ x ∈ r.consulted, memory x = memory' x) :
    r.verdict options memory = r.verdict options memory' := by
  cases r with
  | single r =>
    cases r with
    | syncLevel =>
      have hunit := h (.single .syncLevelUnit) (by simp [consulted])
      simp only [verdict, Single.verdict, hunit]
    | _ => rfl
  | mask reg part => rfl
  | input channel part => rfl
  | sense sensed phase part => rfl
  | sweep block part => rfl

theorem kept_consulted (r : Register) (h : ∀ x ∈ r.consulted, memory x = memory' x)
    (v : r.Value) : r.kept options memory v = r.kept options memory' v := by
  rw [kept, kept, verdict_consulted r h]

end Register

abbrev Entry := (r : Register) × r.Value

def Entry.call (entry : Entry) : Call := .write entry.1 entry.2

def Entry.reply (entry : Entry) : Reply :=
  match entry.1.refused entry.2 with
  | some fault => .failed fault
  | none => .done

namespace Memory

variable (options : SimulatorOptions) (memory : Memory)

def set (entry : Entry) : Memory :=
  (entry.1.kept options memory entry.2).elim memory (memory.store entry.1)

variable {options} {memory memory' : Memory} {entry other : Entry} {r : Register}

theorem store_touched {written : Register} (h : r ∈ written.touched) (v : written.Value) :
    memory.store written v r = memory'.store written v r := by
  unfold store
  split
  · simp only [Register.touched, List.mem_cons, List.not_mem_nil, or_false] at h
    rcases h with rfl | rfl
    · rw [Function.update_of_ne (by simp), Function.update_self, Function.update_of_ne (by simp),
        Function.update_self]
    · rw [Function.update_self, Function.update_self]
  · next hrange =>
    have hself : r = written := by
      unfold Register.touched at h
      split at h
      · exact (hrange _ _ _ rfl HEq.rfl).elim
      · exact List.mem_singleton.mp h
    subst hself
    rw [Function.update_self, Function.update_self]

theorem set_spares (h : r ∉ entry.1.touched) : memory.set options entry r = memory r := by
  unfold set
  cases entry.1.kept options memory entry.2 with
  | none => rfl
  | some kept => exact store_spares h

theorem store_comm (h : ∀ r ∈ entry.1.touched, r ∉ other.1.touched) :
    (memory.store entry.1 entry.2).store other.1 other.2 =
      (memory.store other.1 other.2).store entry.1 entry.2 := by
  funext r
  by_cases hentry : r ∈ entry.1.touched
  · rw [store_spares (h r hentry)]
    exact store_touched hentry _
  · rw [store_spares hentry]
    by_cases hother : r ∈ other.1.touched
    · exact store_touched hother _
    · rw [store_spares hother, store_spares hother, store_spares hentry]

theorem set_comm (h : entry.1.Apart other.1) :
    (memory.set options entry).set options other =
      (memory.set options other).set options entry := by
  have hother : other.1.kept options (memory.set options entry) other.2 =
      other.1.kept options memory other.2 :=
    other.1.kept_consulted (fun r hr => set_spares (h.spared r hr)) other.2
  have hentry : entry.1.kept options (memory.set options other) entry.2 =
      entry.1.kept options memory entry.2 :=
    entry.1.kept_consulted (fun r hr => set_spares (h.consulted r hr)) entry.2
  change (other.1.kept options (memory.set options entry) other.2).elim _ _ =
    (entry.1.kept options (memory.set options other) entry.2).elim _ _
  rw [hother, hentry]
  unfold set
  cases entry.1.kept options memory entry.2 with
  | none => cases other.1.kept options memory other.2 <;> rfl
  | some kept =>
    cases other.1.kept options memory other.2 with
    | none => rfl
    | some kept' => exact @store_comm memory ⟨entry.1, kept⟩ ⟨other.1, kept'⟩ h.touched

theorem consulted_spared {x : Register} (h : x ∈ r.consulted) : x ∉ r.touched := by
  unfold Register.consulted at h
  split at h
  · rw [List.mem_singleton.mp h]
    decide
  · exact absurd h List.not_mem_nil

theorem set_set :
    (memory.set options entry).set options entry = memory.set options entry := by
  have hentry : entry.1.kept options (memory.set options entry) entry.2 =
      entry.1.kept options memory entry.2 :=
    entry.1.kept_consulted (fun r hr => set_spares (consulted_spared hr)) entry.2
  change (entry.1.kept options (memory.set options entry) entry.2).elim _ _ = _
  rw [hentry]
  unfold set
  cases entry.1.kept options memory entry.2 with
  | none => rfl
  | some kept =>
    funext r
    by_cases hr : r ∈ entry.1.touched
    · exact store_touched hr kept
    · exact store_spares hr

theorem foldl_set_perm {entries entries' : List Entry}
    (h : entries.Pairwise fun entry other => entry.1.Apart other.1)
    (hperm : entries.Perm entries') :
    entries.foldl (set options) memory = entries'.foldl (set options) memory := by
  have hsymm : Std.Symm fun entry other : Entry => entry.1.Apart other.1 :=
    ⟨fun _ _ => Register.Apart.symm⟩
  refine hperm.foldl_eq' (fun entry hentry other hother memory => ?_) memory
  by_cases heq : entry = other
  · rw [heq]
  · exact set_comm (h.forall hentry hother heq)

theorem foldl_set_spares {entries : List Entry} (h : ∀ entry ∈ entries, r ∉ entry.1.touched) :
    entries.foldl (set options) memory r = memory r := by
  induction entries generalizing memory with
  | nil => rfl
  | cons entry entries ih =>
    rw [List.foldl_cons, ih fun other hother => h other (by simp [hother]),
      set_spares (h entry (by simp))]

theorem foldl_set_apply {entries : List Entry}
    (h : entries.Pairwise fun entry other => entry.1.Apart other.1) (hentry : entry ∈ entries) :
    entries.foldl (set options) memory entry.1 = memory.set options entry entry.1 := by
  induction entries generalizing memory with
  | nil => exact absurd hentry List.not_mem_nil
  | cons first entries ih =>
    obtain ⟨hfirst, hrest⟩ := List.pairwise_cons.mp h
    rw [List.foldl_cons]
    rcases List.mem_cons.mp hentry with rfl | hmem
    · exact foldl_set_spares fun other hother =>
        (hfirst other hother).touched _ (Register.self_touched _)
    · have hapart := (hfirst entry hmem).symm
      rw [ih hrest hmem, ← set_comm hapart, set_spares (hapart.touched _ (Register.self_touched _))]

theorem foldl_set_set {entries : List Entry}
    (h : entries.Pairwise fun entry other => entry.1.Apart other.1) :
    entries.foldl (set options) (entries.foldl (set options) memory) =
      entries.foldl (set options) memory := by
  induction entries generalizing memory with
  | nil => rfl
  | cons entry entries ih =>
    have hlast (memory : Memory) : entries.foldl (set options) (memory.set options entry) =
        (entries.foldl (set options) memory).set options entry := by
      have hperm := @foldl_set_perm options memory _ _ h (List.perm_append_singleton _ _).symm
      rwa [List.foldl_append] at hperm
    calc (entry :: entries).foldl (set options) ((entry :: entries).foldl (set options) memory)
        = entries.foldl (set options)
            (((entries.foldl (set options) memory).set options entry).set options entry) :=
          congrArg (fun memory => entries.foldl (set options) (memory.set options entry))
            (hlast memory)
      _ = entries.foldl (set options) (entries.foldl (set options) (memory.set options entry)) := by
          rw [set_set, ← hlast memory]
      _ = (entry :: entries).foldl (set options) memory := ih (List.pairwise_cons.mp h).2

end Memory

section Runs

variable {options : SimulatorOptions} {timeout : Int} {panel : Panel}

theorem write_set (entry : Entry) : (panel.write options entry.1 entry.2).1 = entry.reply ∧
    (panel.write options entry.1 entry.2).2.memory = panel.memory.set options entry := by
  unfold Panel.write Entry.reply Memory.set Register.kept
  cases entry.1.refused entry.2 with
  | some fault => exact ⟨rfl, rfl⟩
  | none =>
    cases entry.1.unavailable options with
    | some error => exact ⟨rfl, rfl⟩
    | none => cases entry.1.verdict options panel.memory entry.2 <;> exact ⟨rfl, rfl⟩

theorem run_writes {entries : List Entry} {replies : List Reply} {final : Panel}
    (hrun : (panelMachine options timeout).run panel (entries.map Entry.call) =
      some (replies, final)) :
    replies = entries.map Entry.reply ∧
      final.memory = entries.foldl (Memory.set options) panel.memory := by
  induction entries generalizing panel replies with
  | nil =>
    cases hrun
    exact ⟨rfl, rfl⟩
  | cons entry entries ih =>
    obtain ⟨out, after, rest, hstep, hrest, rfl⟩ := Machine.run_cons hrun
    have hwrite : panel.write options entry.1 entry.2 = (out, after) := Option.some.inj hstep
    obtain ⟨hreplies, hmemory⟩ := ih hrest
    obtain ⟨hreply, hset⟩ := @write_set options panel entry
    rw [hwrite] at hreply hset
    refine ⟨?_, ?_⟩
    · rw [hreplies, List.map_cons, ← hreply]
    · rw [hmemory, List.foldl_cons, ← hset]

end Runs

section Driver

variable (options : SimulatorOptions) {before : List Call} {entries entries' : List Entry}

theorem calls_fit (hfits : ∀ entry ∈ entries, entry.1.parameter.Fits entry.2) :
    ∀ call ∈ entries.map Entry.call, call.Fits := by
  intro call hcall
  obtain ⟨entry, hentry, rfl⟩ := List.mem_map.mp hcall
  exact hfits entry hentry

theorem driven_writes {timeout : Int} {client : SimulatorClient} {panel : Panel}
    (h : Shows options timeout client panel)
    (hfits : ∀ entry ∈ entries, entry.1.parameter.Fits entry.2) : ∃ final after,
      driven.run client (entries.map Entry.call) = some (entries.map Entry.reply, final) ∧
      Shows options timeout final after ∧
      after.memory = entries.foldl (Memory.set options) panel.memory := by
  obtain ⟨replies, final, after, hrun, hmodel, hfinal⟩ :=
    (driven_refines options timeout).run (calls_fit hfits) h
  obtain ⟨rfl, hmemory⟩ := run_writes hmodel
  exact ⟨final, after, hrun, hfinal, hmemory⟩

theorem configuration_order (hbefore : ∀ call ∈ before, call.Fits)
    (hfits : ∀ entry ∈ entries, entry.1.parameter.Fits entry.2)
    (hapart : entries.Pairwise fun entry other => entry.1.Apart other.1)
    (hperm : entries.Perm entries') :
    ∃ outs client final final',
      driven.run (.opened (.new options)) before = some (outs, client) ∧
      driven.run client (entries.map Entry.call) = some (entries.map Entry.reply, final) ∧
      driven.run client (entries'.map Entry.call) = some (entries'.map Entry.reply, final') ∧
      cells.view final.sim.state = cells.view final'.sim.state ∧
      ∀ entry ∈ entries, cells.view final.sim.state entry.1 =
        Memory.set options (cells.view client.sim.state) entry entry.1 := by
  have hfits' : ∀ entry ∈ entries', entry.1.parameter.Fits entry.2 :=
    fun entry hentry => hfits entry (hperm.mem_iff.mpr hentry)
  obtain ⟨outs, client, panel, hrun, -, hclient⟩ :=
    (driven_refines options 5000).run hbefore (Shows.opened options)
  obtain ⟨final, after, hwrites, hfinal, hmemory⟩ := driven_writes options hclient hfits
  obtain ⟨final', after', hwrites', hfinal', hmemory'⟩ := driven_writes options hclient hfits'
  refine ⟨outs, client, final, final', hrun, hwrites, hwrites', ?_, fun entry hentry => ?_⟩
  · rw [hfinal.memory, hfinal'.memory, hmemory, hmemory', Memory.foldl_set_perm hapart hperm]
  · rw [hfinal.memory, hmemory, hclient.memory, Memory.foldl_set_apply hapart hentry]

def addressAndBaud : List Entry :=
  [⟨.single .gpibAddress, (31 : Int)⟩, ⟨.single .serialBaud, (9600 : Int)⟩]

theorem addressAndBaud_fits : ∀ entry ∈ addressAndBaud, entry.1.parameter.Fits entry.2 := by
  intro entry hentry
  simp only [addressAndBaud, List.mem_cons, List.not_mem_nil, or_false] at hentry
  rcases hentry with rfl | rfl
  · exact (by decide : FitsInt 31)
  · exact (by decide : FitsInt 9600)

theorem addressAndBaud_apart :
    addressAndBaud.Pairwise fun entry other => entry.1.Apart other.1 :=
  List.pairwise_pair.mpr ⟨by decide, by decide, by decide⟩

theorem address_and_baud : ∃ final final',
    driven.run (.opened (.new {}))
      [.write (.single .gpibAddress) (31 : Int), .write (.single .serialBaud) (9600 : Int)] =
        some ([.failed (NormaInstrument.gpibFault 31), .done], final) ∧
    driven.run (.opened (.new {}))
      [.write (.single .serialBaud) (9600 : Int), .write (.single .gpibAddress) (31 : Int)] =
        some ([.done, .failed (NormaInstrument.gpibFault 31)], final') ∧
    cells.view final.sim.state = cells.view final'.sim.state := by
  have hnone : ∀ call ∈ ([] : List Call), call.Fits := fun _ hcall => absurd hcall List.not_mem_nil
  obtain ⟨outs, client, final, final', hrun, hentries, hentries', hview, -⟩ :=
    configuration_order {} hnone addressAndBaud_fits addressAndBaud_apart (.swap _ _ [])
  cases hrun
  exact ⟨final, final', hentries, hentries', hview⟩

theorem configuration_repeated (hbefore : ∀ call ∈ before, call.Fits)
    (hfits : ∀ entry ∈ entries, entry.1.parameter.Fits entry.2)
    (hapart : entries.Pairwise fun entry other => entry.1.Apart other.1) :
    ∃ outs client once twice,
      driven.run (.opened (.new options)) before = some (outs, client) ∧
      driven.run client (entries.map Entry.call) = some (entries.map Entry.reply, once) ∧
      driven.run once (entries.map Entry.call) = some (entries.map Entry.reply, twice) ∧
      cells.view twice.sim.state = cells.view once.sim.state := by
  obtain ⟨outs, client, panel, hrun, -, hclient⟩ :=
    (driven_refines options 5000).run hbefore (Shows.opened options)
  obtain ⟨once, after, hwrites, honce, hmemory⟩ := driven_writes options hclient hfits
  obtain ⟨twice, after', hwrites', htwice, hmemory'⟩ := driven_writes options honce hfits
  refine ⟨outs, client, once, twice, hrun, hwrites, hwrites', ?_⟩
  rw [htwice.memory, honce.memory, hmemory', hmemory, Memory.foldl_set_set hapart]

theorem address_and_baud_repeated : ∃ once twice,
    driven.run (.opened (.new {}))
      [.write (.single .gpibAddress) (31 : Int), .write (.single .serialBaud) (9600 : Int)] =
        some ([.failed (NormaInstrument.gpibFault 31), .done], once) ∧
    driven.run once
      [.write (.single .gpibAddress) (31 : Int), .write (.single .serialBaud) (9600 : Int)] =
        some ([.failed (NormaInstrument.gpibFault 31), .done], twice) ∧
    cells.view twice.sim.state = cells.view once.sim.state := by
  obtain ⟨outs, client, once, twice, hrun, hwrites, hwrites', hview⟩ :=
    configuration_repeated {} (fun _ hcall => absurd hcall List.not_mem_nil) addressAndBaud_fits
      addressAndBaud_apart
  cases hrun
  exact ⟨once, twice, hwrites, hwrites', hview⟩

end Driver

end Norma
