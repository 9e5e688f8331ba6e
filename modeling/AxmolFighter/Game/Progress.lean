import AxmolFighter.Game.CharacterTables
import AxmolFighter.Game.Sessions

/-!
# The statements of the progress handlers

`player/progress.rs`: each handler deletes the rows of the selected character and inserts those of the
request, four of the five in a transaction. Any statement can fail; `fails` says which calls of the
database do. What goes into the database is filtered and bounded, and read back in the order of a key;
what goes into the delegate's and the shared copy is the request.
-/

namespace AxmolFighter.Game

open GameState

/-! ### Calls of the database -/

/-- What a handler sees: the committed database, that of its open transaction, the shared copies, and how
often the database was called. -/
structure Store where
  db : CharacterTables := {}
  tx : Option CharacterTables := none
  selectedCharacters : Table UInt32 CharacterInfo := ∅
  calls : Nat := 0

inductive StoreOp
  | begin
  | execute (inTx : Bool) (s : Statement)
  | commit
  | setSelectedCharacter (sessionId : UInt32) (character : CharacterInfo)

@[reducible] def StoreOp.Answer : StoreOp → Type
  | setSelectedCharacter .. => Unit
  | _ => Bool

@[reducible] def storeOps : Signature := ⟨StoreOp, StoreOp.Answer⟩

abbrev StoreOp.perform (op : StoreOp) : Program storeOps op.Answer := Program.perform (S := storeOps) op

namespace Store

variable (fails : Nat → Bool) (st : Store)

def called : Store := { st with calls := st.calls + 1 }

/-- The database that a call has made, if it succeeds. -/
def attempt (db : Option CharacterTables) : Option CharacterTables := if fails st.calls then none else db

def exec : (op : StoreOp) → op.Answer × Store
  | .begin =>
      match st.attempt fails (some st.db) with
      | none => (false, st.called)
      | some db => (true, { st.called with tx := some db })
  | .execute true s =>
      match st.attempt fails (st.tx.bind fun db => db.execute s) with
      | none => (false, st.called)
      | some db => (true, { st.called with tx := some db })
  | .execute false s =>
      match st.attempt fails (st.db.execute s) with
      | none => (false, st.called)
      | some db => (true, { st.called with db })
  | .commit =>
      match st.attempt fails st.tx with
      | none => (false, { st.called with tx := none })
      | some db => (true, { st.called with db, tx := none })
  | .setSelectedCharacter sessionId character =>
      ((), { st with selectedCharacters := st.selectedCharacters.insert sessionId character })

end Store

/-- One statement after the other, up to the first that fails. -/
def executeAll (inTx : Bool) : List Statement → Program storeOps Bool
  | [] => pure true
  | s :: rest => do
      if ← StoreOp.perform (.execute inTx s) then executeAll inTx rest
      else pure false

/-! ### The handlers -/

namespace FeatureTable

/-- Whether the handler inserts a row for the item. -/
def keeps : (t : FeatureTable) → t.Row → Bool
  | characterArmaments, a => 0 < a.configId
  | characterSkillSlots, _ => true
  | characterPets, p => 0 < p.configId
  | characterPartners, p => 0 < p.configId

/-- The values that are bound for the item. -/
def bound : (t : FeatureTable) → t.Row → t.Row
  | characterArmaments, a => {
      configId := a.configId
      level := max a.level 1
      star := max a.star 0
      grade := max a.grade 0
      skinId := max a.skinId 0
      skillId := max a.skillId 0 }
  | characterSkillSlots, s => { slot := s.slot, leafId := max s.leafId 0 }
  | characterPets, p => { configId := p.configId, level := max p.level 1, star := max p.star 0 }
  | characterPartners, p => { configId := p.configId, level := max p.level 1, star := max p.star 0 }

/-- The rows that are inserted. -/
def written (t : FeatureTable) (items : List t.Row) : List t.Row := (items.filter t.keeps).map t.bound

def rewrite (t : FeatureTable) (characterId : Int64) (items : List t.Row) : List Statement :=
  .deleteRows t characterId :: (t.written items).map (.insertRow t characterId)

end FeatureTable

/-- The rows of the items that the handler inserts; the database numbers them. -/
def FashionRow.written (characterId : Int64) (fashions : List FashionInfo) : List FashionRow :=
  (fashions.filter fun f => 0 < f.configId).map fun f =>
    { characterId, configId := f.configId, position := f.position, worn := f.worn }

def internalError : CodeResp := { code := -1, message := "服务器内部错误" }

namespace Delegate

variable (d : Delegate)

/-- Both copies, once the request is saved. -/
def refreshSelected (characterId : Int64) (req : ProgressReq) : Program storeOps (Delegate × CodeResp) := do
  let selected := d.selectedCharacter.map fun c => req.refresh characterId c
  Program.whenSome selected fun c => StoreOp.perform (.setSelectedCharacter d.sessionId c)
  pure ({ d with selectedCharacter := selected }, { code := 0, message := "" })

def handleFashionWear (fashions : List FashionInfo) : Program storeOps (Delegate × CodeResp) :=
  match d.requireSelectedCharacterId with
  | .error resp => pure (d, resp)
  | .ok characterId => do
      let inserts := (FashionRow.written characterId fashions).map .insertFashion
      if ← executeAll false (.deleteFashions characterId :: inserts) then
        refreshSelected d characterId (.fashionWear fashions)
      else pure (d, internalError)

/-- The other handlers: the statements are executed in a transaction. -/
def sync (statements : Int64 → List Statement) (req : ProgressReq) : Program storeOps (Delegate × CodeResp) :=
  match d.requireSelectedCharacterId with
  | .error resp => pure (d, resp)
  | .ok characterId => do
      if ← StoreOp.perform .begin then
        if ← executeAll true (statements characterId) then
          if ← StoreOp.perform .commit then refreshSelected d characterId req
          else pure (d, internalError)
        else pure (d, internalError)
      else pure (d, internalError)

def handleArmamentSync (armaments : List ArmamentInfo) (appearanceId : Int32) :
    Program storeOps (Delegate × CodeResp) :=
  sync d (fun characterId => FeatureTable.characterArmaments.rewrite characterId armaments ++
    [.updateArmamentAppearanceId characterId (max appearanceId 0)]) (.armamentSync armaments appearanceId)

def handleSkillSlotsSync (slots : List SkillSlotInfo) : Program storeOps (Delegate × CodeResp) :=
  sync d (fun characterId => FeatureTable.characterSkillSlots.rewrite characterId slots) (.skillSlotsSync slots)

def handlePetSync (pets : List PetInfo) (activePetId : Int32) : Program storeOps (Delegate × CodeResp) :=
  sync d (fun characterId => FeatureTable.characterPets.rewrite characterId pets ++
    [.updateActivePetId characterId (max activePetId 0)]) (.petSync pets activePetId)

def handlePartnerSync (partners : List PartnerInfo) (activePartnerId : Int32) :
    Program storeOps (Delegate × CodeResp) :=
  sync d (fun characterId => FeatureTable.characterPartners.rewrite characterId partners ++
    [.updateActivePartnerId characterId (max activePartnerId 0)]) (.partnerSync partners activePartnerId)

def handleProgressReq : ProgressReq → Program storeOps (Delegate × CodeResp)
  | .fashionWear fashions => handleFashionWear d fashions
  | .armamentSync armaments appearanceId => handleArmamentSync d armaments appearanceId
  | .skillSlotsSync slots => handleSkillSlotsSync d slots
  | .petSync pets activePetId => handlePetSync d pets activePetId
  | .partnerSync partners activePartnerId => handlePartnerSync d partners activePartnerId

end Delegate

/-! ### What a handler comes to -/

/-- What is executed for a request, if every statement succeeds. -/
def ProgressReq.statements (characterId : Int64) : ProgressReq → List Statement
  | .fashionWear fashions =>
      .deleteFashions characterId :: (FashionRow.written characterId fashions).map .insertFashion
  | .armamentSync armaments appearanceId => FeatureTable.characterArmaments.rewrite characterId armaments ++
      [.updateArmamentAppearanceId characterId (max appearanceId 0)]
  | .skillSlotsSync slots => FeatureTable.characterSkillSlots.rewrite characterId slots
  | .petSync pets activePetId => FeatureTable.characterPets.rewrite characterId pets ++
      [.updateActivePetId characterId (max activePetId 0)]
  | .partnerSync partners activePartnerId => FeatureTable.characterPartners.rewrite characterId partners ++
      [.updateActivePartnerId characterId (max activePartnerId 0)]

/-- The request is written without a transaction. -/
def ProgressReq.isFashionWear : ProgressReq → Bool
  | .fashionWear _ => true
  | _ => false

section Outcomes

variable {fails : Nat → Bool} {st : Store}

theorem attempt_some {db : Option CharacterTables} {db' : CharacterTables} (h : st.attempt fails db = some db') :
    db = some db' := by
  unfold Store.attempt at h
  split_ifs at h
  exact h

theorem executeAll_tx (fails : Nat → Bool) (ss : List Statement) (st : Store) {db : CharacterTables}
    (htx : st.tx = some db) :
    ∃ ok tx calls, (executeAll true ss).eval (Store.exec fails) st = (ok, { st with tx, calls }) ∧
      (ok = true → ∃ db', CharacterTables.executeAll ss db = some db' ∧ tx = some db') := by
  induction ss generalizing st db with
  | nil => exact ⟨true, st.tx, st.calls, rfl, fun _ => ⟨db, rfl, htx⟩⟩
  | cons s rest ih =>
      rcases hattempt : st.attempt fails (st.tx.bind fun db => db.execute s) with _ | db₁
      · refine ⟨false, st.tx, st.calls + 1, ?_, nofun⟩
        show Program.eval _ (Program.call _ _) st = _
        rw [Program.eval, Store.exec, hattempt]
        rfl
      · obtain ⟨ok, tx, calls, heval, hok⟩ := ih { st.called with tx := some db₁ } rfl
        refine ⟨ok, tx, calls, ?_, fun h => ?_⟩
        · show Program.eval _ (Program.call _ _) st = _
          rw [Program.eval, Store.exec, hattempt]
          exact heval
        · obtain ⟨db', hrest, htx'⟩ := hok h
          have hfirst := attempt_some hattempt
          rw [htx] at hfirst
          refine ⟨db', ?_, htx'⟩
          rw [CharacterTables.executeAll, show db.execute s = some db₁ from hfirst]
          exact hrest

theorem executeAll_pool_cons (s : Statement) (rest : List Statement) (st : Store) :
    (executeAll false (s :: rest)).eval (Store.exec fails) st =
      match st.attempt fails (st.db.execute s) with
      | none => (false, st.called)
      | some db => (executeAll false rest).eval (Store.exec fails) { st.called with db } := by
  show Program.eval _ (Program.call _ _) st = _
  rw [Program.eval, Store.exec]
  rcases st.attempt fails (st.db.execute s) with _ | db <;> rfl

theorem executeAll_pool (fails : Nat → Bool) (ss : List Statement) (st : Store) :
    ∃ ok db calls, (executeAll false ss).eval (Store.exec fails) st = (ok, { st with db, calls }) ∧
      (ok = true → CharacterTables.executeAll ss st.db = some db) := by
  induction ss generalizing st with
  | nil => exact ⟨true, st.db, st.calls, rfl, fun _ => rfl⟩
  | cons s rest ih =>
      rcases hattempt : st.attempt fails (st.db.execute s) with _ | db₁
      · refine ⟨false, st.db, st.calls + 1, ?_, nofun⟩
        rw [executeAll_pool_cons, hattempt]
        rfl
      · obtain ⟨ok, db, calls, heval, hok⟩ := ih { st.called with db := db₁ }
        refine ⟨ok, db, calls, ?_, fun h => ?_⟩
        · rw [executeAll_pool_cons, hattempt]
          exact heval
        · rw [CharacterTables.executeAll, attempt_some hattempt]
          exact hok h

end Outcomes

/-- A request that was saved: the statements are in the database, and both copies are refreshed. -/
structure Saved (d : Delegate) (c : CharacterInfo) (req : ProgressReq) (st : Store)
    (r : (Delegate × CodeResp) × Store) : Prop where
  result : r.1 = ({ d with selectedCharacter := some (req.refresh c.characterId c) }, { code := 0, message := "" })
  executed : CharacterTables.executeAll (req.statements c.characterId) st.db = some r.2.db
  shared : r.2.selectedCharacters = st.selectedCharacters.insert d.sessionId (req.refresh c.characterId c)

/-- One that was not: the copies are as they were, and so is the database if there was a transaction. -/
structure Unsaved (d : Delegate) (req : ProgressReq) (st : Store) (r : (Delegate × CodeResp) × Store) : Prop where
  result : r.1 = (d, internalError)
  shared : r.2.selectedCharacters = st.selectedCharacters
  rolledBack : req.isFashionWear = false → r.2.db = st.db

abbrev Outcome (d : Delegate) (c : CharacterInfo) (req : ProgressReq) (st : Store)
    (r : (Delegate × CodeResp) × Store) : Prop := Saved d c req st r ∨ Unsaved d req st r

namespace Delegate

variable {fails : Nat → Bool} {st : Store} {d : Delegate} {accountId : Int64} {c : CharacterInfo}

theorem requireSelectedCharacterId_ok (haccount : d.accountId = some accountId)
    (hselected : d.selectedCharacter = some c) : d.requireSelectedCharacterId = .ok c.characterId := by
  rw [requireSelectedCharacterId, haccount, hselected]

theorem refreshSelected_eval (hselected : d.selectedCharacter = some c) (req : ProgressReq) (st : Store) :
    (d.refreshSelected c.characterId req).eval (Store.exec fails) st =
      (({ d with selectedCharacter := some (req.refresh c.characterId c) }, { code := 0, message := "" }),
        { st with selectedCharacters := st.selectedCharacters.insert d.sessionId (req.refresh c.characterId c) }) := by
  rw [refreshSelected, hselected]
  rfl

theorem sync_outcome (haccount : d.accountId = some accountId) (hselected : d.selectedCharacter = some c)
    (req : ProgressReq) :
    Outcome d c req st ((d.sync (fun characterId => req.statements characterId) req).eval (Store.exec fails) st) := by
  rw [sync, requireSelectedCharacterId_ok haccount hselected]
  show Outcome d c req st (Program.eval _ (Program.call _ _) st)
  rcases hbegin : st.attempt fails (some st.db) with _ | db
  · rw [Program.eval, Store.exec, hbegin]
    exact Or.inr ⟨rfl, rfl, fun _ => rfl⟩
  · obtain rfl := Option.some.inj (attempt_some hbegin)
    rw [Program.eval, Store.exec, hbegin]
    show Outcome d c req st (Program.eval _ (executeAll true _ >>= _) _)
    obtain ⟨ok, tx, calls, heval, hok⟩ := executeAll_tx fails
      (req.statements c.characterId) { st.called with tx := some st.db } rfl
    rw [Program.eval_bind, heval]
    cases ok with
    | false => exact Or.inr ⟨rfl, rfl, fun _ => rfl⟩
    | true =>
        obtain ⟨db', hexecuted, rfl⟩ := hok rfl
        show Outcome d c req st (Program.eval _ (Program.call _ _) _)
        generalize hst : ({ st.called with tx := some db', calls } : Store) = st₁
        obtain ⟨hdb, hshared, htx⟩ : st₁.db = st.db ∧ st₁.selectedCharacters = st.selectedCharacters ∧
            st₁.tx = some db' := by
          subst hst
          exact ⟨rfl, rfl, rfl⟩
        rcases hcommit : st₁.attempt fails st₁.tx with _ | db
        · rw [Program.eval, Store.exec, hcommit]
          exact Or.inr ⟨rfl, hshared, fun _ => hdb⟩
        · obtain rfl := Option.some.inj (htx.symm.trans (attempt_some hcommit))
          rw [Program.eval, Store.exec, hcommit]
          show Outcome d c req st (Program.eval _ (d.refreshSelected c.characterId req) _)
          rw [refreshSelected_eval hselected]
          refine Or.inl ⟨rfl, hexecuted, ?_⟩
          rw [← hshared]
          rfl

theorem handleFashionWear_eval (haccount : d.accountId = some accountId)
    (hselected : d.selectedCharacter = some c) (fashions : List FashionInfo) {ok : Bool} {st' : Store}
    (h : (executeAll false (ProgressReq.statements c.characterId (.fashionWear fashions))).eval
      (Store.exec fails) st = (ok, st')) :
    (d.handleFashionWear fashions).eval (Store.exec fails) st =
      (if ok then d.refreshSelected c.characterId (.fashionWear fashions)
        else pure (d, internalError)).eval (Store.exec fails) st' := by
  rw [handleFashionWear, requireSelectedCharacterId_ok haccount hselected]
  show Program.eval _ (executeAll false (ProgressReq.statements _ (.fashionWear fashions)) >>= _) _ = _
  rw [Program.eval_bind, h]

theorem handleFashionWear_outcome (haccount : d.accountId = some accountId)
    (hselected : d.selectedCharacter = some c) (fashions : List FashionInfo) :
    Outcome d c (.fashionWear fashions) st ((d.handleFashionWear fashions).eval (Store.exec fails) st) := by
  obtain ⟨ok, db, calls, heval, hok⟩ := executeAll_pool fails
    (ProgressReq.statements c.characterId (.fashionWear fashions)) st
  rw [handleFashionWear_eval haccount hselected fashions heval]
  cases ok with
  | false => exact Or.inr ⟨rfl, rfl, nofun⟩
  | true =>
      rw [if_pos rfl, refreshSelected_eval hselected]
      exact Or.inl ⟨rfl, hok rfl, rfl⟩

theorem handleProgressReq_refused {resp : CodeResp} (h : d.requireSelectedCharacterId = .error resp)
    (req : ProgressReq) : d.handleProgressReq req = pure (d, resp) := by
  cases req with
  | fashionWear => rw [handleProgressReq, handleFashionWear, h]
  | armamentSync => rw [handleProgressReq, handleArmamentSync, sync, h]
  | skillSlotsSync => rw [handleProgressReq, handleSkillSlotsSync, sync, h]
  | petSync => rw [handleProgressReq, handlePetSync, sync, h]
  | partnerSync => rw [handleProgressReq, handlePartnerSync, sync, h]

theorem handleProgressReq_outcome (fails : Nat → Bool) (st : Store) (haccount : d.accountId = some accountId)
    (hselected : d.selectedCharacter = some c) (req : ProgressReq) :
    Outcome d c req st ((d.handleProgressReq req).eval (Store.exec fails) st) := by
  cases req with
  | fashionWear fashions => exact handleFashionWear_outcome haccount hselected fashions
  | armamentSync | skillSlotsSync | petSync | partnerSync => exact sync_outcome haccount hselected _

end Delegate

/-! ### The handlers as one request -/

/-- To the session, a handler with its statements does what it does with one request for all of them that is
answered as they end. -/
theorem handleProgress_eval (fails : Nat → Bool) (st : Store) (d : Delegate) (req : ProgressReq)
    (outside : (r : Request) → r.Answer) (g : GameState) (hshared : g.selectedCharacters = st.selectedCharacters)
    (hsaved : ∀ characterId, outside (.saveProgress characterId req) =
      decide (((d.handleProgressReq req).eval (Store.exec fails) st).1.2.code = 0)) :
    ((d.handleProgress req).eval (GameState.exec outside) g).1 =
        ((d.handleProgressReq req).eval (Store.exec fails) st).1 ∧
      ((d.handleProgress req).eval (GameState.exec outside) g).2.selectedCharacters =
        ((d.handleProgressReq req).eval (Store.exec fails) st).2.selectedCharacters := by
  rcases hid : d.requireSelectedCharacterId with resp | characterId
  · rw [Delegate.handleProgressReq_refused hid, Delegate.handleProgress, hid]
    exact ⟨rfl, hshared⟩
  · obtain ⟨accountId, c, haccount, hselected, rfl⟩ : ∃ accountId c, d.accountId = some accountId ∧
        d.selectedCharacter = some c ∧ c.characterId = characterId := by
      rcases haccount : d.accountId with _ | accountId <;> rcases hselected : d.selectedCharacter with _ | c <;>
        rw [Delegate.requireSelectedCharacterId, haccount, hselected] at hid <;> cases hid
      exact ⟨accountId, c, rfl, rfl, rfl⟩
    have hanswer := hsaved c.characterId
    rw [Delegate.handleProgress, hid]
    show (Program.eval _ (Program.call _ _) g).1 = _ ∧ (Program.eval _ (Program.call _ _) g).2.selectedCharacters = _
    rcases Delegate.handleProgressReq_outcome fails st haccount hselected req with h | h
    · rw [h.result] at hanswer ⊢
      rw [Program.eval, GameState.exec, GameState.answer, hanswer, hselected, h.shared, ← hshared]
      exact ⟨rfl, rfl⟩
    · rw [h.result] at hanswer ⊢
      rw [Program.eval, GameState.exec, GameState.answer, hanswer, h.shared, ← hshared]
      exact ⟨rfl, rfl⟩

/-! ### Requests that are not saved -/

/-- What is stored about the character. -/
structure CharacterTables.SameFor (db db' : CharacterTables) (characterId : Int64) : Prop where
  character : db'.characters.get characterId = db.characters.get characterId
  equipments : db'.equipmentsOf characterId = db.equipmentsOf characterId
  fashions : db'.fashionsOf characterId = db.fashionsOf characterId
  features : ∀ t, db'.rowsOf t characterId = db.rowsOf t characterId

theorem CharacterTables.SameFor.refl (db : CharacterTables) (characterId : Int64) :
    db.SameFor db characterId := ⟨rfl, rfl, rfl, fun _ => rfl⟩

theorem executeAll_insertFashions (fails : Nat → Bool) {characterId : Int64} (rows : List FashionRow)
    (howner : ∀ row ∈ rows, row.characterId = characterId) (st : Store) :
    ∃ fashions calls ok added, (executeAll false (rows.map .insertFashion)).eval (Store.exec fails) st =
        (ok, { st with db := { st.db with fashions }, calls }) ∧
      fashions.select (fun row => row.characterId = characterId) = st.db.fashionsOf characterId ++ added ∧
      (∀ e ∈ added, st.db.fashions.nextId ≤ e.1) ∧
      (ok = false → (added = [] ↔ fails st.calls = true ∨ st.db.acceptsFashion characterId = false)) := by
  induction rows generalizing st with
  | nil => exact ⟨st.db.fashions, st.calls, true, [], rfl, (List.append_nil _).symm, nofun, nofun⟩
  | cons row rest ih =>
      have hrow : row.characterId = characterId := howner row List.mem_cons_self
      have hexecute : st.db.execute (.insertFashion row) = if st.db.acceptsFashion characterId then
          some { st.db with fashions := st.db.fashions.insert row } else none := by
        rw [← hrow]
        rfl
      rw [List.map_cons, executeAll_pool_cons, hexecute, Store.attempt]
      by_cases hfails : fails st.calls = true
      · rw [if_pos hfails]
        refine ⟨st.db.fashions, st.calls + 1, false, [], rfl, (List.append_nil _).symm, nofun, fun _ => ?_⟩
        exact ⟨fun _ => Or.inl hfails, fun _ => rfl⟩
      · rw [if_neg hfails]
        by_cases haccepts : st.db.acceptsFashion characterId = true
        · rw [if_pos haccepts]
          obtain ⟨fashions, calls, ok, added, heval, hselect, hids, -⟩ :=
            ih (fun row h => howner row (List.mem_cons_of_mem _ h))
              { st.called with db := { st.db with fashions := st.db.fashions.insert row } }
          refine ⟨fashions, calls, ok, (st.db.fashions.nextId, row) :: added, heval, ?_, ?_, fun _ => ?_⟩
          · have hlast := st.db.fashions.select_insert (fun row => row.characterId = characterId) (v := row)
              (decide_eq_true hrow)
            rw [hselect]
            show (st.db.fashions.insert row).select _ ++ added = _
            rw [hlast, List.append_assoc]
            rfl
          · intro e he
            rcases List.mem_cons.1 he with rfl | he
            · exact Nat.le_refl _
            · exact Nat.le_of_succ_le (hids e he)
          · simp [hfails, haccepts]
        · rw [if_neg haccepts]
          refine ⟨st.db.fashions, st.calls + 1, false, [], rfl, (List.append_nil _).symm, nofun, fun _ => ?_⟩
          exact ⟨fun _ => Or.inr (Bool.eq_false_iff.2 haccepts), fun _ => rfl⟩

/-- A failed request loses nothing: there was a transaction, or the rows could not be deleted, or there were
none and the first new one was refused. -/
def LosesNothing (fails : Nat → Bool) (st : Store) (d : Delegate) (req : ProgressReq) : Prop :=
  ∀ fashions c, req = .fashionWear fashions → d.accountId.isSome → d.selectedCharacter = some c →
    fails st.calls = true ∨ st.db.fashionsOf c.characterId = [] ∧
      (fails (st.calls + 1) = true ∨ st.db.acceptsFashion c.characterId = false)

/-- Without a transaction, a character keeps its fashions only if it had none, or they were not deleted. -/
theorem executeAll_fashions {fails : Nat → Bool} {characterId : Int64} {rows : List FashionRow}
    (howner : ∀ row ∈ rows, row.characterId = characterId) {st st' : Store}
    (heval : (executeAll false (.deleteFashions characterId :: rows.map .insertFashion)).eval (Store.exec fails) st =
      (false, st')) :
    st.db.SameFor st'.db characterId ↔ fails st.calls = true ∨ st.db.fashionsOf characterId = [] ∧
      (fails (st.calls + 1) = true ∨ st.db.acceptsFashion characterId = false) := by
  rw [executeAll_pool_cons, Store.attempt] at heval
  by_cases hfails : fails st.calls = true
  · rw [if_pos hfails] at heval
    cases heval
    exact iff_of_true (.refl _ _) (Or.inl hfails)
  · rw [if_neg hfails] at heval
    obtain ⟨fashions, calls, ok, added, hinserts, hselect, hids, hadded⟩ := executeAll_insertFashions
      fails rows howner { st.called with db := { st.db with
        fashions := st.db.fashions.delete fun row => row.characterId = characterId } }
    obtain ⟨rfl, rfl⟩ := Prod.mk.inj (hinserts.symm.trans heval)
    have hnone := st.db.fashionsOf_delete characterId
    have hsame : st.db.SameFor { st.db with fashions } characterId ↔ added = st.db.fashionsOf characterId := by
      rw [hnone, List.nil_append] at hselect
      rw [← hselect]
      exact ⟨fun h => h.fashions, fun h => ⟨rfl, rfl, h, fun _ => rfl⟩⟩
    -- the ids of the new rows are not those of old ones
    have hboth : added = st.db.fashionsOf characterId ↔ st.db.fashionsOf characterId = [] ∧ added = [] := by
      constructor
      · intro h
        have hempty : added = [] := by
          refine List.eq_nil_iff_forall_not_mem.2 fun e he => ?_
          have hold := h ▸ he
          have hlt := st.db.fashions.fresh e.1 e.2 ((Serial.mem_select _ _).1 hold).1
          exact absurd (hids e he) (not_le.2 hlt)
        exact ⟨h ▸ hempty, hempty⟩
      · rintro ⟨h, h'⟩
        rw [h, h']
    refine (hsame.trans hboth).trans ?_
    rw [hadded rfl, or_iff_right hfails]
    rfl

/-- A request that is answered with an error leaves everything about the character as it was, in the database
and in both copies, exactly if it loses nothing. -/
theorem unchanged_iff (fails : Nat → Bool) (st : Store) (d : Delegate) (req : ProgressReq)
    (hcode : ((d.handleProgressReq req).eval (Store.exec fails) st).1.2.code ≠ 0) :
    (((d.handleProgressReq req).eval (Store.exec fails) st).1.1 = d ∧
      ((d.handleProgressReq req).eval (Store.exec fails) st).2.selectedCharacters = st.selectedCharacters ∧
      ∀ c, d.selectedCharacter = some c →
        st.db.SameFor ((d.handleProgressReq req).eval (Store.exec fails) st).2.db c.characterId) ↔
      LosesNothing fails st d req := by
  have hrefused : ∀ resp, d.requireSelectedCharacterId = .error resp →
      ((d.handleProgressReq req).eval (Store.exec fails) st) = ((d, resp), st) := by
    intro resp h
    rw [Delegate.handleProgressReq_refused h]
    rfl
  rcases haccount : d.accountId with _ | accountId
  · have hnone : LosesNothing fails st d req := by
      intro _ _ _ hlogin
      rw [haccount] at hlogin
      cases hlogin
    rw [hrefused { code := 401, message := "请先登录" } (by rw [Delegate.requireSelectedCharacterId, haccount])]
    exact iff_of_true ⟨rfl, rfl, fun c _ => .refl _ _⟩ hnone
  rcases hselected : d.selectedCharacter with _ | c
  · have hnone : LosesNothing fails st d req := by
      intro _ _ _ _ hc
      rw [hselected] at hc
      cases hc
    rw [hrefused { code := 2, message := "请先选择角色" }
      (by rw [Delegate.requireSelectedCharacterId, haccount, hselected])]
    exact iff_of_true ⟨rfl, rfl, fun c _ => .refl _ _⟩ hnone
  rcases Delegate.handleProgressReq_outcome fails st haccount hselected req with h | h
  · rw [h.result] at hcode
    exact absurd rfl hcode
  rw [h.result, and_iff_right rfl, and_iff_right h.shared]
  rcases hfashion : req.isFashionWear with _ | _
  · have hnone : LosesNothing fails st d req := by
      rintro fashions _ rfl
      cases hfashion
    rw [h.rolledBack hfashion]
    exact iff_of_true (fun c _ => .refl _ _) hnone
  · cases req with
    | fashionWear fashions =>
        obtain ⟨ok, db, calls, heval, -⟩ := executeAll_pool fails
          (ProgressReq.statements c.characterId (.fashionWear fashions)) st
        have hhandler := Delegate.handleFashionWear_eval haccount hselected fashions heval
        cases ok with
        | true =>
            rw [if_pos rfl, Delegate.refreshSelected_eval hselected] at hhandler
            rw [Delegate.handleProgressReq, hhandler] at hcode
            exact absurd rfl hcode
        | false =>
            have howner : ∀ row ∈ FashionRow.written c.characterId fashions, row.characterId = c.characterId := by
              intro row hrow
              obtain ⟨f, -, rfl⟩ := List.mem_map.1 hrow
              rfl
            have hiff := executeAll_fashions howner heval
            rw [Delegate.handleProgressReq, hhandler]
            constructor
            · rintro hsame _ _ ⟨⟩ _ hc
              rw [hselected] at hc
              cases hc
              exact hiff.1 (hsame c rfl)
            · rintro hloses _ ⟨⟩
              exact hiff.2 (hloses fashions c rfl (by rw [haccount]; rfl) hselected)
    | _ => cases hfashion

/-! ### One character with one fashion -/

namespace Sample

def character : CharacterInfo where
  characterId := 1
  name := "c"
  classId := 1
  gender := 0
  level := 1
  exp := 0
  gold := 0

def player : Delegate := { sessionId := 1, accountId := some 10, selectedCharacter := some character }

def store : Store where
  db := {
    characters := (∅ : Table _ _).insert 1 { name := "c", classId := 1 }
    fashions := (∅ : Serial FashionRow).insert { characterId := 1, configId := 3, position := 2, worn := true } }

end Sample

/-- Two skills in one slot are refused by the primary key, and the rows that were there come back. -/
theorem unchanged_iff_duplicate :
    let answered := (Sample.player.handleProgressReq (.skillSlotsSync [⟨1, 5⟩, ⟨1, 6⟩])).eval
      (Store.exec fun _ => false) Sample.store
    answered.1.2.code ≠ 0 ∧ answered.1.1 = Sample.player ∧
      answered.2.selectedCharacters = Sample.store.selectedCharacters ∧
      Sample.store.db.SameFor answered.2.db Sample.character.characterId := by
  intro answered
  have hcode : answered.1.2.code ≠ 0 := by decide +kernel
  obtain ⟨hdelegate, hselected, hrows⟩ := (unchanged_iff (fun _ => false) Sample.store Sample.player
    (.skillSlotsSync [⟨1, 5⟩, ⟨1, 6⟩]) hcode).2 (fun _ _ h => by cases h)
  exact ⟨hcode, hdelegate, hselected, hrows Sample.character rfl⟩

/-- If the second statement of a change of fashions fails, the character has none any more. -/
theorem fashions_lost : ∃ (fails : Nat → Bool) (st : Store) (d : Delegate) (c : CharacterInfo) (fashions : List FashionInfo),
    d.selectedCharacter = some c ∧ ((d.handleFashionWear fashions).eval (Store.exec fails) st).1.2.code ≠ 0 ∧
      ¬ st.db.SameFor ((d.handleFashionWear fashions).eval (Store.exec fails) st).2.db c.characterId := by
  refine ⟨fun n => n == 1, Sample.store, Sample.player, Sample.character, [⟨1, 4, 2, true⟩], rfl,
    by decide +kernel, fun h => ?_⟩
  have hlength := congrArg List.length h.fashions
  revert hlength
  decide +kernel

end AxmolFighter.Game
