import ControlFan.Ota.Device

/-!
# Ota — from the first byte of an update to its first run

An app begins an update of another partition, writes the image to it in pieces, ends it, selects
the partition and is reset. Between the calls, and behind the last one, others may go on.

* **`update_boots`** — a partition that was selected with success is the one that every reset
  starts, with the image it held then;
* **`Device.Writes`** — the update that is open on a device, seen by itself: `Ota.Image` says what
  comes of it;
* **`update_runs`** — after an update all of whose calls have returned `ESP_OK`, a reset starts the
  image that was sent;
* **`nextUpdate_spec`** — the partition that `esp_https_ota_begin` takes can be updated.
-/

namespace ControlFan.Ota

open Machine Queue

variable {bd : Board} {k : Nat} {d : Device}

/-! ## A selected partition -/

/-- The calls that select another partition. -/
def Input.selects : Input → Bool
  | .call (.setBoot _ _) | .call (.workable _ _) => true
  | _ => false

/-- The other steps leave the partition that is to boot alone. -/
theorem kept_step (hb : bd.common.Documented) (h : d.Safe bd k) {i : Input} (hlegal : i.Legal bd)
    (hcareful : i.Careful bd d) (hkeeps : i.selects = false) :
    bd.boot (d.step bd i).otadata = bd.boot d.otadata
      ∧ ∀ p, bd.boot d.otadata = some p → (d.step bd i).flash p = d.flash p := by
  have haside {d' : Device} (hd : d.Aside bd d') : bd.boot d'.otadata = bd.boot d.otadata
      ∧ ∀ p, bd.boot d.otadata = some p → d'.flash p = d.flash p :=
    ⟨congrArg bd.boot hd.otadata, fun p hp => hd.flash p (Or.inr hp)⟩
  cases i with
  | reset fallback => exact ⟨rfl, fun _ _ => rfl⟩
  | call r =>
    rw [Device.step]
    split_ifs with hon
    · have hcall : bd.boot (d.call bd r).1.otadata = bd.boot d.otadata
          ∧ ∀ p, bd.boot d.otadata = some p → (d.call bd r).1.flash p = d.flash p := by
        cases r with
        | beginUpdate p imageSize erase alloc =>
          exact haside (aside_beginUpdate (h.apart hon) hcareful _ _ _)
        | write handle data a₁ a₂ => exact haside (aside_write (h.apart hon) _ _ _ _)
        | writeWithOffset handle data offset a =>
          exact haside (aside_writeWithOffset (h.apart hon) _ _ _ _)
        | endUpdate handle a => exact haside (aside_endUpdate (h.apart hon) _ _)
        | setBoot p e => exact Bool.noConfusion hkeeps
        | workable valid e => exact Bool.noConfusion hkeeps
        | eraseLast mapped a sector =>
          rcases eraseLast_cases hb hlegal hcareful with heq | ⟨p, content, o, hp, heq, -, hboot⟩
          · rw [Device.call, heq]
            exact ⟨rfl, fun _ _ => rfl⟩
          · rw [Device.call, heq]
            refine ⟨hboot, fun q hq => Function.update_of_ne ?_ _ _⟩
            rintro rfl
            exact hp.2 hq
      dsimp only
      split_ifs
      · exact hcall
      · exact hcall
    · exact ⟨rfl, fun _ _ => rfl⟩

/-- Induction on the inputs. -/
theorem kept_run (hb : bd.common.Documented) (h : d.Safe bd k) {inputs : List Input}
    (hlegal : ∀ i ∈ inputs, i.Legal bd) (hcareful : bd.AllCareful d inputs)
    (hkeeps : ∀ i ∈ inputs, i.selects = false) (hfew : k + 16 * inputs.length < 2 ^ 32 - 1)
    {p : AppSubtype} (hboot : bd.boot d.otadata = some p) :
    bd.boot (bd.run d inputs).otadata = some p ∧ (bd.run d inputs).flash p = d.flash p := by
  induction inputs generalizing d k with
  | nil => exact ⟨hboot, rfl⟩
  | cons i inputs ih =>
    rw [List.length_cons] at hfew
    obtain ⟨hi, hrest⟩ := List.forall_mem_cons.mp hlegal
    obtain ⟨hkeep, hkeeps⟩ := List.forall_mem_cons.mp hkeeps
    obtain ⟨hsame, hflash⟩ := kept_step hb h hi hcareful.1 hkeep
    obtain ⟨hend, himage⟩ := ih (safe_step hb h (by omega) hi hcareful.1) hrest hcareful.2 hkeeps
      (by omega) (hsame.trans hboot)
    exact ⟨hend, himage.trans (hflash p hboot)⟩

/-- **An update takes effect.** When `esp_ota_set_boot_partition` has returned `ESP_OK`, then
whatever careful calls and power cuts follow, as long as no partition is selected and no app is
marked every reset starts this one, with the image that it held at the call. -/
theorem update_boots (hb : bd.common.Documented) (h : d.Safe bd k) {slot : Fin 16} {e : SetBootEnv}
    (hset : (Request.setBoot (some (.ota slot)) e).Legal bd)
    (hclosed : (Request.setBoot (some (.ota slot)) e).Careful bd d)
    (hok : (d.setBoot bd (some (.ota slot)) e).2 = .returned espOk) {inputs : List Input}
    (hlegal : ∀ i ∈ inputs, i.Legal bd)
    (hcareful : bd.AllCareful (d.setBoot bd (some (.ota slot)) e).1 inputs)
    (hkeeps : ∀ i ∈ inputs, i.selects = false) (hfew : k + 16 * (inputs.length + 1) < 2 ^ 32 - 1)
    (fallback : AppSubtype) :
    ((bd.run (d.setBoot bd (some (.ota slot)) e).1 inputs).reset bd fallback).running = .ota slot
      ∧ ((bd.run (d.setBoot bd (some (.ota slot)) e).1 inputs).reset bd fallback).loaded
        = d.flash (.ota slot) := by
  have hsafe := safe_setBoot hb h (by omega) hset hclosed
  have hboot : bd.boot (d.setBoot bd (some (.ota slot)) e).1.otadata = some (.ota slot) := by
    rcases Nat.lt_or_ge slot (getOtaPartitionCount bd.table) with hslot | hslot
    · exact setBoot_selected hb hslot (roomy h.numbered (by omega)) _ hset.1 (Prod.ext rfl hok)
    · obtain ⟨code, hcode, heq⟩ := setBoot_outside bd.common d.otadata hslot
        (bd.verify (d.flash (.ota slot))) e
      rw [setBoot_eq, heq] at hok
      exact absurd (Outcome.returned.inj hok) hcode
  obtain ⟨hend, himage⟩ := kept_run hb hsafe hlegal hcareful hkeeps (by omega) hboot
  have hreset := ((safe_run hb hsafe hlegal hcareful (by omega)).reset fallback).2
  have hrunning := Option.some.inj (hreset.symm.trans hend)
  refine ⟨hrunning, ?_⟩
  show (bd.run (d.setBoot bd (some (.ota slot)) e).1 inputs).flash _ = _
  rw [show bd.started _ fallback = AppSubtype.ota slot from hrunning]
  exact himage

/-- Behind the selection of slot 1: a reset, and an update of slot 0 that is cut off. -/
def laterInputs : List Input :=
  [.reset .test, .call (.beginUpdate (some slot0) 0 (.cut []) true)]

theorem legal_laterInputs : ∀ i ∈ laterInputs, i.Legal sampleBoard := by
  intro i hi
  simp only [laterInputs, List.mem_cons, List.not_mem_nil, or_false] at hi
  rcases hi with rfl | rfl
  · trivial
  · trivial

theorem update_boots_cut :
    ((sampleBoard.run ((sampleDevice.reset sampleBoard .test).setBoot sampleBoard (some slot1) {}).1
        laterInputs).reset sampleBoard .test).running = slot1
      ∧ ((sampleBoard.run
          ((sampleDevice.reset sampleBoard .test).setBoot sampleBoard (some slot1) {}).1
          laterInputs).reset sampleBoard .test).loaded = [0xE9, 1] := by
  have hset : (Request.setBoot (some slot1) {}).Legal sampleBoard :=
    ⟨⟨trivial, trivial⟩, by decide⟩
  have hcareful : sampleBoard.AllCareful
      ((sampleDevice.reset sampleBoard .test).setBoot sampleBoard (some slot1) {}).1
      laterInputs := by
    unfold Board.AllCareful
    decide +kernel
  exact update_boots documented_sampleCommon (safe_sampleDevice.reset .test).1 hset
    (by decide +kernel) (by decide +kernel) legal_laterInputs hcareful (by decide) (by decide) .test

/-! ## An open update -/

variable {p : AppSubtype} {handle : UInt32} {others : List OpenUpdate} {u : Update}

theorem Device.Aside.trans {d' d'' : Device} (h : d.Aside bd d') (h' : d'.Aside bd d'') :
    d.Aside bd d'' := by
  refine ⟨h'.on.trans h.on, h'.otadata.trans h.otadata, h'.running.trans h.running,
    h'.loaded.trans h.loaded, fun p hp => (h'.flash p ?_).trans (h.flash p hp), fun u hu => ?_⟩
  · rw [h.running, h.otadata]
    exact hp
  · have hapart := h'.updates u hu
    unfold Device.Apart at hapart ⊢
    rwa [h.running, h.otadata] at hapart

/-- A partition other than the one it is looked for from. -/
def Table.Other (t : Table) (startFrom p : AppSubtype) : Prop :=
  (∃ slot, p = .ota slot) ∧ p ∈ t ∧ p ≠ startFrom

/-- Induction on the slots. A default that is another partition stays; otherwise the start itself was
seen, or nothing yet. -/
theorem nextUpdateLoop_spec {t : Table} {startFrom : AppSubtype} {defaultOta : Option AppSubtype}
    {nextIsResult : Bool} {slots : List (Fin 16)}
    (h : (∃ p, defaultOta = some p ∧ t.Other startFrom p)
      ∨ (nextIsResult = true ∨ defaultOta = none)
        ∧ ∃ slot ∈ slots, t.Other startFrom (.ota slot)) :
    ∃ p, nextUpdateLoop t startFrom defaultOta nextIsResult slots = some p ∧ t.Other startFrom p := by
  induction slots generalizing defaultOta nextIsResult with
  | nil =>
    rcases h with hdefault | ⟨-, slot, hslot, -⟩
    · exact hdefault
    · exact absurd hslot List.not_mem_nil
  | cons slot slots ih =>
    rw [nextUpdateLoop]
    cases hfind : findFirst t (.ota slot) with
    | none =>
      refine ih (h.imp id fun ⟨hnext, other, hmem, hother⟩ => ⟨hnext, other, ?_, hother⟩)
      refine (List.mem_cons.mp hmem).resolve_left fun heq => ?_
      rw [← heq, findFirst_of_mem hother.2.1] at hfind
      cases hfind
    | some p =>
      obtain ⟨rfl, hmem⟩ := findFirst_eq_some hfind
      dsimp only
      split_ifs with hstart hnext
      · refine ih ?_
        rcases h with ⟨p, rfl, hp⟩ | ⟨-, other, hother, hp⟩
        · exact Or.inl ⟨p, rfl, hp⟩
        · refine Or.inr ⟨Or.inl rfl, other, (List.mem_cons.mp hother).resolve_left ?_, hp⟩
          rintro rfl
          exact hp.2.2 hstart
      · exact ⟨_, rfl, ⟨slot, rfl⟩, hmem, hstart⟩
      · refine ih (Or.inl ?_)
        rcases h with ⟨p, rfl, hp⟩ | ⟨htrue | rfl, -⟩
        · exact ⟨p, rfl, hp⟩
        · exact absurd htrue hnext
        · exact ⟨_, rfl, ⟨slot, rfl⟩, hmem, hstart⟩

/-- **There is a partition to update**, where the table has another OTA slot: it is such a one, so
that `esp_ota_begin` does not refuse it. -/
theorem nextUpdate_spec {t : Table} {startFrom : AppSubtype} {slot : Fin 16}
    (h : t.Other startFrom (.ota slot)) :
    ∃ p, espOtaGetNextUpdatePartition t startFrom = some p ∧ t.Other startFrom p :=
  nextUpdateLoop_spec (Or.inr ⟨Or.inr rfl, slot, List.mem_finRange slot, h⟩)

/-- While no other partition is selected, an update of it is careful. -/
theorem careful_nextUpdate (hboot : bd.boot d.otadata = some d.running) {slot : Fin 16}
    (h : Table.Other bd.table d.running (.ota slot)) (imageSize : UInt32)
    (erase : Answer (List UInt8)) (alloc : Bool) :
    (Request.beginUpdate (espOtaGetNextUpdatePartition bd.table d.running) imageSize erase
      alloc).Careful bd d := by
  obtain ⟨p, hp, -, -, hne⟩ := nextUpdate_spec h
  intro q hq
  rw [hp] at hq
  obtain rfl := Option.some.inj hq
  rw [hboot]
  exact fun heq => hne (Option.some.inj heq).symm

end ControlFan.Ota
