import ControlFan.Ota.Boot

/-!
# Ota — the way back (`app_update/esp_ota_ops.c`)

An app that does not work gives up its entry of `otadata`; the other one, or the factory app,
boots instead.

* **`espOtaCheckRollbackIsPossible`**, **`espOtaCurrentOtaIsWorkable`**, **`lastBootApp`** — the
  calls;
* **`rollback_boots`** — where a rollback is possible, the loss of the current entry leaves a
  partition to boot that verifies;
* **`workable_cases`** — what a call for the current app leaves of `otadata`.
-/

namespace ControlFan.Ota

def espErrOtaRollbackFailed : Int := 0x1505

/-- The partition that the other entry selects, or the factory partition without it. -/
def rollbackPartition (t : Table) (b : BootloaderCommon) (o : Otadata) (active : Fin 2) :
    Option AppSubtype :=
  if b.otaSelectValid (o (nextOtadata active)) then
    findFirst t (.ota (slotOf (getOtaPartitionCount t) (o (nextOtadata active)).otaSeq))
  else findFirst t .factory

/-- `esp_ota_check_rollback_is_possible`; `verify` is the verdict of `image_validate`. -/
def espOtaCheckRollbackIsPossible (t : Table) (b : BootloaderCommon) (o : Otadata)
    (verify : AppSubtype → Bool) : Bool :=
  if getOtaPartitionCount t = 0 then false
  else
    match b.selectOtadata o (fun i => b.otaSelectValid (o i)) true with
    | none => false
    | some active => (rollbackPartition t b o active).any verify

/-- What `esp_ota_current_ota_is_workable` meets. -/
structure WorkableEnv where
  mapped : Bool := true
  erase : Answer Rest := .done
  write : Answer Rest := .done
  deriving Repr

/-- `esp_ota_current_ota_is_workable`: the entry in force is written again with its verdict. With
`valid = false` the device restarts behind it. -/
def espOtaCurrentOtaIsWorkable (t : Table) (b : BootloaderCommon) (o : Otadata)
    (verify : AppSubtype → Bool) (valid : Bool) (e : WorkableEnv) : Otadata × Outcome :=
  if ¬ e.mapped then (o, .returned espErrNotFound)
  else
    match b.getActiveOtadata o with
    | none => (o, .returned espFail)
    | some active =>
      if getOtaPartitionCount t = 0 then (o, .returned espFail)
      else if valid then
        if (o active).otaState = espOtaImgValid then (o, .returned espOk)
        else
          rewriteOtaSeq b o { o active with otaState := espOtaImgValid } (o active).otaSeq active
            e.erase e.write
      else if ¬ espOtaCheckRollbackIsPossible t b o verify then
        (o, .returned espErrOtaRollbackFailed)
      else
        let (o, ret) :=
          rewriteOtaSeq b o { o active with otaState := espOtaImgInvalid } (o active).otaSeq active
            e.erase e.write
        if ret = .returned espOk then (o, .off) else (o, ret)

/-- The partition that `esp_ota_erase_last_boot_app_partition` erases, and the sector of its
entry. -/
def lastBootApp (t : Table) (b : BootloaderCommon) (o : Otadata) (running : AppSubtype) :
    Option (Fin 2 × AppSubtype) :=
  match b.getActiveOtadata o with
  | none => none
  | some active =>
    let inactive := nextOtadata active
    if getOtaPartitionCount t = 0 then none
    else if (o inactive).otaSeq = 0xFFFFFFFF
        ∨ (o inactive).crc ≠ b.otaSelectCrc (o inactive) then none
    else
      match findFirst t (.ota (slotOf (getOtaPartitionCount t) (o inactive).otaSeq)) with
      | none => none
      | some p => if p = running then none else some (inactive, p)

variable {b : BootloaderCommon} {t : Table} {o : Otadata} {verify : AppSubtype → Bool}

theorem eq_other {i j : Fin 2} (h : i ≠ j) : i = j + 1 := by
  revert i j
  decide

/-- Without the entry in force the other one counts, or none. -/
theorem seqs_update_invalid (o : Otadata) (active : Fin 2) {x : OtaSelectEntry}
    (hx : b.otaSelectValid x = false) :
    (b.otaSelectValid (o (active + 1)) = true
        ∧ IsGreatest (seqs b (Function.update o active x)) (o (active + 1)).otaSeq.toNat)
      ∨ b.otaSelectValid (o (active + 1)) = false ∧ seqs b (Function.update o active x) = ∅ := by
  have hother (n : Nat) (hn : n ∈ seqs b (Function.update o active x)) :
      b.otaSelectValid (o (active + 1)) = true ∧ (o (active + 1)).otaSeq.toNat = n := by
    rcases Records.mem_numbers_update hn with ⟨hvalid, -⟩ | ⟨i, hne, hvalid, hnumber⟩
    · exact absurd (hx.symm.trans hvalid) Bool.false_ne_true
    · rw [eq_other hne] at hvalid hnumber
      exact ⟨hvalid, hnumber⟩
  cases hvalid : b.otaSelectValid (o (active + 1)) with
  | true =>
    refine Or.inl ⟨rfl, ⟨active + 1, ?_⟩, fun n hn => (hother n hn).2.ge⟩
    rw [Function.update_of_ne (ne_other active).symm]
    exact ⟨hvalid, rfl⟩
  | false =>
    refine Or.inr ⟨rfl, Set.eq_empty_iff_forall_notMem.mpr fun n hn => ?_⟩
    exact Bool.false_ne_true (hvalid.symm.trans (hother n hn).1)

/-- **A rollback boots.** -/
theorem rollback_boots (hb : b.Documented) (hpossible : espOtaCheckRollbackIsPossible t b o verify)
    {active : Fin 2} (hactive : b.getActiveOtadata o = some active) {x : OtaSelectEntry}
    (hx : b.otaSelectValid x = false) :
    ∃ p, espOtaGetBootPartition t b (Function.update o active x) = some p ∧ verify p = true := by
  unfold espOtaCheckRollbackIsPossible at hpossible
  split_ifs at hpossible with hcount
  rw [← hb.active, hactive] at hpossible
  obtain ⟨p, hp, hverify⟩ := (Option.any_eq_true _ _).mp hpossible
  refine ⟨p, ?_, hverify⟩
  unfold rollbackPartition at hp
  rcases seqs_update_invalid o active hx with ⟨hvalid, hgreatest⟩ | ⟨hinvalid, hempty⟩
  · rw [hvalid, if_pos rfl] at hp
    rw [boot_of_isGreatest hb (by omega) hgreatest, (findFirst_eq_some hp).1]
  · rw [hinvalid, if_neg (by decide)] at hp
    rw [boot_of_empty hb hempty]
    unfold findDefaultBootPartition
    rw [List.append_assoc, List.singleton_append, List.findSome?_cons, hp]

theorem invalid_state (hb : b.Documented) {e : OtaSelectEntry} (h : e.otaState = espOtaImgInvalid) :
    b.otaSelectValid e = false := by
  refine Bool.eq_false_of_not_eq_true fun hvalid => ?_
  have hinvalid := (hb.invalid e).mpr (Or.inr (Or.inl h))
  exact Bool.false_ne_true (((hb.valid e).mp hvalid).1.symm.trans hinvalid)

/-- The entry in force, confirmed: its number stays, or it is lost under the flash. -/
theorem confirm_cases (hb : b.Documented) {active : Fin 2} (hvalid : b.otaSelectValid (o active) = true)
    {e : WorkableEnv} (herase : e.erase.Legal (Rest.Legal b))
    (hwrite : e.write.Legal (Rest.Legal b)) {o' : Otadata} {ret : Outcome}
    (hrewrite : rewriteOtaSeq b o { o active with otaState := espOtaImgValid } (o active).otaSeq
      active e.erase e.write = (o', ret)) :
    seqs b o' = seqs b o
      ∨ ¬ (e.erase = .done ∧ e.write = .done)
        ∧ ∃ x, b.otaSelectValid x = false ∧ o' = Function.update o active x := by
  have hwritten : seqs b (Function.update o active
      (writtenEntry b { o active with otaState := espOtaImgValid } (o active).otaSeq)) = seqs b o := by
    refine Records.numbers_update_same (Eq.trans (valid_writtenEntry hb _ (fun hmax => ?_)
      (show espOtaImgValid ≠ espOtaImgInvalid by decide)
      (show espOtaImgValid ≠ espOtaImgAborted by decide)) hvalid.symm) rfl
    have hinvalid := (hb.invalid (o active)).mpr (Or.inl hmax)
    exact Bool.false_ne_true (((hb.valid _).mp hvalid).1.symm.trans hinvalid)
  have hleft := (rewriteOtaSeq_left hb o { o active with otaState := espOtaImgValid }
    (o active).otaSeq active herase hwrite).1
  by_cases hdone : e.erase = .done ∧ e.write = .done
  · rw [hdone.1, hdone.2] at hrewrite
    obtain ⟨rfl, -⟩ := Prod.mk.inj hrewrite
    exact Or.inl hwritten
  · rw [hrewrite] at hleft
    cases hleft with
    | untouched => exact Or.inl rfl
    | torn x hx => exact Or.inr ⟨hdone, x, hx, rfl⟩
    | written => exact Or.inl hwritten

/-- The entry in force, given up: it stays, or it is lost. -/
theorem giveUp_cases (hb : b.Documented) (active : Fin 2) {e : WorkableEnv}
    (herase : e.erase.Legal (Rest.Legal b)) (hwrite : e.write.Legal (Rest.Legal b)) {o' : Otadata}
    (hrewrite : (rewriteOtaSeq b o { o active with otaState := espOtaImgInvalid }
      (o active).otaSeq active e.erase e.write).1 = o') :
    o' = o ∨ ∃ x, b.otaSelectValid x = false ∧ o' = Function.update o active x := by
  have hleft := (rewriteOtaSeq_left hb o { o active with otaState := espOtaImgInvalid }
    (o active).otaSeq active herase hwrite).1
  rw [hrewrite] at hleft
  cases hleft with
  | untouched => exact Or.inl rfl
  | torn x hx => exact Or.inr ⟨x, hx, rfl⟩
  | written => exact Or.inr ⟨_, invalid_state hb rfl, rfl⟩

/-- A call for the current app leaves the numbers as they are, or it loses the entry in force. A
confirmation loses it only where the flash fails, and it is given up only for a rollback. -/
theorem workable_cases (hb : b.Documented) (t : Table) (o : Otadata) (verify : AppSubtype → Bool)
    (valid : Bool) {e : WorkableEnv} (herase : e.erase.Legal (Rest.Legal b))
    (hwrite : e.write.Legal (Rest.Legal b)) {o' : Otadata} {ret : Outcome}
    (hworkable : espOtaCurrentOtaIsWorkable t b o verify valid e = (o', ret)) :
    seqs b o' = seqs b o
      ∨ (valid = true ∧ ¬ (e.erase = .done ∧ e.write = .done)
          ∨ valid = false ∧ espOtaCheckRollbackIsPossible t b o verify)
        ∧ ∃ active x, b.getActiveOtadata o = some active ∧ b.otaSelectValid x = false
          ∧ o' = Function.update o active x := by
  have hkept {r : Outcome} (heq : (o, r) = (o', ret)) : seqs b o' = seqs b o :=
    congrArg (seqs b) (congrArg Prod.fst heq).symm
  unfold espOtaCurrentOtaIsWorkable at hworkable
  cases hactive : b.getActiveOtadata o with
  | none =>
    rw [hactive] at hworkable
    dsimp only at hworkable
    split_ifs at hworkable
    · exact Or.inl (hkept hworkable)
    · exact Or.inl (hkept hworkable)
  | some active =>
    rw [hactive] at hworkable
    dsimp only at hworkable
    have hgivenUp (hvalid : ¬ valid = true) (hpossible : espOtaCheckRollbackIsPossible t b o verify)
        {r : Outcome}
        (heq : ((rewriteOtaSeq b o { o active with otaState := espOtaImgInvalid } (o active).otaSeq
          active e.erase e.write).1, r) = (o', ret)) :
        seqs b o' = seqs b o
          ∨ (valid = true ∧ ¬ (e.erase = .done ∧ e.write = .done)
              ∨ valid = false ∧ espOtaCheckRollbackIsPossible t b o verify)
            ∧ ∃ active' x, some active = some active' ∧ b.otaSelectValid x = false
              ∧ o' = Function.update o active' x := by
      rcases giveUp_cases hb active herase hwrite (Prod.mk.inj heq).1 with
        hsame | ⟨x, hx, hlost⟩
      · exact Or.inl (congrArg (seqs b) hsame)
      · exact Or.inr ⟨Or.inr ⟨Bool.eq_false_of_not_eq_true hvalid, hpossible⟩, active, x, rfl, hx,
          hlost⟩
    split_ifs at hworkable with hmapped hcount hvalid hstate hpossible
    · exact Or.inl (hkept hworkable)
    · exact Or.inl (hkept hworkable)
    · rcases confirm_cases hb (active_some hb hactive).1 herase hwrite hworkable with
        hseqs | ⟨hdone, x, hx, heq⟩
      · exact Or.inl hseqs
      · exact Or.inr ⟨Or.inl ⟨hvalid, hdone⟩, active, x, rfl, hx, heq⟩
    · exact hgivenUp hvalid hpossible hworkable
    · exact hgivenUp hvalid hpossible hworkable
    · exact Or.inl (hkept hworkable)
    · exact Or.inl (hkept hworkable)

theorem lastBootApp_spec {running p : AppSubtype} {sec : Fin 2}
    (h : lastBootApp t b o running = some (sec, p)) :
    p ≠ running ∧ 0 < getOtaPartitionCount t
      ∧ ∃ active, b.getActiveOtadata o = some active ∧ sec = active + 1 := by
  unfold lastBootApp at h
  cases hactive : b.getActiveOtadata o with
  | none =>
    rw [hactive] at h
    cases h
  | some active =>
    rw [hactive] at h
    dsimp only at h
    split_ifs at h with hcount hentry
    cases hfind : findFirst t (.ota (slotOf (getOtaPartitionCount t) (o (active + 1)).otaSeq)) with
    | none =>
      rw [hfind] at h
      cases h
    | some q =>
      rw [hfind] at h
      dsimp only at h
      split_ifs at h with hrunning
      cases h
      exact ⟨hrunning, by omega, active, rfl, rfl⟩

/-- The entry that does not count may be lost. -/
theorem boot_spare (hb : b.Documented) (hcount : 0 < getOtaPartitionCount t) {active : Fin 2}
    (hactive : b.getActiveOtadata o = some active) (rest : Rest) (hlegal : rest.Legal b) :
    seqs b (Function.update o (active + 1) (rest.entry (o (active + 1)) erasedEntry)) ⊆ seqs b o
      ∧ espOtaGetBootPartition t b
          (Function.update o (active + 1) (rest.entry (o (active + 1)) erasedEntry))
        = espOtaGetBootPartition t b o := by
  obtain ⟨hvalid, hgreatest⟩ := active_some hb hactive
  have hlost {x : OtaSelectEntry} (hx : b.otaSelectValid x = false) :
      seqs b (Function.update o (active + 1) x) ⊆ seqs b o
        ∧ espOtaGetBootPartition t b (Function.update o (active + 1) x)
          = espOtaGetBootPartition t b o := by
    refine ⟨Records.numbers_update_invalid hx, ?_⟩
    rw [boot_of_isGreatest hb hcount hgreatest, boot_of_isGreatest hb hcount
      (Records.isGreatest_update_invalid hgreatest ⟨hvalid, rfl⟩ (ne_other active) hx)]
  cases rest with
  | before =>
    show seqs b (Function.update o (active + 1) (o (active + 1))) ⊆ seqs b o ∧ _
    rw [Rest.entry, Function.update_eq_self]
    exact ⟨subset_rfl, rfl⟩
  | after => exact hlost (invalid_erasedEntry hb)
  | torn x => exact hlost hlegal

end ControlFan.Ota
