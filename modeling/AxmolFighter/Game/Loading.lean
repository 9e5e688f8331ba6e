import AxmolFighter.Game.CharacterTables
import AxmolFighter.Game.Handlers

/-!
# What a selection loads

`game_shared/data.rs`: the queries that a selection issues one after the other. Each may fail on its own, and
a failure is taken for an empty answer. The columns of `characters` that are queried again stand in for one
another; nothing stands in for a list. What is returned and kept is what is stored exactly if the lists whose
queries fail are empty anyway.
-/

namespace AxmolFighter.Game

/-- The columns of `inventory_items` that are read. -/
structure ItemRow where
  characterId : Int64
  configId : Int64
  count : Int32

/-- The tables, the column `player_id` of `characters` and the items. -/
structure CharacterDatabase extends CharacterTables where
  players : Table Int64 Int64 := ∅
  inventoryItems : Serial ItemRow := ∅

/-! ### Queries -/

inductive Query
  | owned (characterId playerId : Int64)
  | character (characterId : Int64)
  | armamentAppearanceId (characterId : Int64)
  | activePetId (characterId : Int64)
  | activePartnerId (characterId : Int64)
  | fashions (characterId : Int64)
  | equipments (characterId : Int64)
  | features (t : FeatureTable) (characterId : Int64)
  | items (characterId : Int64)
deriving DecidableEq

/-- What a query selects. -/
@[reducible] def Query.Selects : Query → Type
  | owned .. => Option Int64
  | character _ => Option CharacterRow
  | armamentAppearanceId _ | activePetId _ | activePartnerId _ => Option Int32
  | fashions _ => List FashionInfo
  | equipments _ => List EquipmentInfo
  | features t _ => List t.Row
  | items _ => List ItemInfo

@[reducible] def queryOps : Signature := ⟨Query, fun q => Except String q.Selects⟩

abbrev Query.perform (q : Query) : Program queryOps (Except String q.Selects) := Program.perform (S := queryOps) q

/-- `unwrap_or_default`. -/
def orEmpty {α : Type} : Except String (List α) → List α
  | .ok rows => rows
  | .error _ => []

/-- `ok().flatten().unwrap_or(0)`. -/
def orZero : Except String (Option Int32) → Int32
  | .ok (some value) => value
  | _ => 0

/-! ### The functions of `GameShared` -/

namespace Loading

/-- `load_lists_for_ids` for one id. -/
def loadCharacterLists (characterId : Int64) : Program queryOps (List FashionInfo × List EquipmentInfo) := do
  let fashions ← Query.perform (.fashions characterId)
  let equipments ← Query.perform (.equipments characterId)
  pure (orEmpty fashions, orEmpty equipments)

def loadCharacterProgress (characterId : Int64) : Program queryOps CharacterProgress := do
  let armamentAppearanceId ← Query.perform (.armamentAppearanceId characterId)
  let activePetId ← Query.perform (.activePetId characterId)
  let activePartnerId ← Query.perform (.activePartnerId characterId)
  let armaments ← Query.perform (.features .characterArmaments characterId)
  let skillSlots ← Query.perform (.features .characterSkillSlots characterId)
  let pets ← Query.perform (.features .characterPets characterId)
  let partners ← Query.perform (.features .characterPartners characterId)
  pure {
    armaments := orEmpty armaments
    armamentAppearanceId := orZero armamentAppearanceId
    skillSlots := orEmpty skillSlots
    pets := orEmpty pets
    activePetId := orZero activePetId
    partners := orEmpty partners
    activePartnerId := orZero activePartnerId }

def loadCharacterById (characterId : Int64) : Program queryOps (Option CharacterInfo) := do
  match ← Query.perform (.character characterId) with
  | .ok (some row) => do
      let (fashions, equipments) ← loadCharacterLists characterId
      let progress ← loadCharacterProgress characterId
      pure (some (rowToCharacter characterId row fashions equipments progress))
  | _ => pure none

end Loading

/-! ### Answers -/

namespace CharacterDatabase

variable (db : CharacterDatabase)

def fashionInfos (characterId : Int64) : List FashionInfo :=
  (db.fashionsOf characterId).map fun e => e.2.toInfo e.1

def equipmentInfos (characterId : Int64) : List EquipmentInfo :=
  (db.equipmentsOf characterId).map fun e => e.2.toInfo e.1

def featureInfos (t : FeatureTable) (characterId : Int64) : List t.Row := (db.rowsOf t characterId).map Prod.snd

def itemInfos (characterId : Int64) : List ItemInfo :=
  (db.inventoryItems.select fun row => row.characterId = characterId).map fun e =>
    { id := .ofNat e.1, configId := e.2.configId, count := e.2.count }

def select : (q : Query) → q.Selects
  | .owned characterId playerId =>
      if db.characters.contains characterId ∧ db.players.get characterId = some playerId then some characterId
      else none
  | .character characterId => db.characters.get characterId
  | .armamentAppearanceId characterId => (db.characters.get characterId).map fun row => row.armamentAppearanceId
  | .activePetId characterId => (db.characters.get characterId).map fun row => row.activePetId
  | .activePartnerId characterId => (db.characters.get characterId).map fun row => row.activePartnerId
  | .fashions characterId => db.fashionInfos characterId
  | .equipments characterId => db.equipmentInfos characterId
  | .features t characterId => db.featureInfos t characterId
  | .items characterId => db.itemInfos characterId

variable (fails : Query → Bool)

/-- The queries of `fails` fail. -/
def query (q : Query) : Except String q.Selects :=
  if fails q then .error "query failed" else .ok (db.select q)

def load {α : Type} (p : Program queryOps α) : α := (p.eval (fun (_ : Unit) q => (db.query fails q, ())) ()).1

/-- The requests of the handler; others are answered by `outside`. -/
def answers (outside : (r : Request) → r.Answer) : (r : Request) → r.Answer
  | .ownedCharacter characterId playerId => db.query fails (.owned characterId playerId)
  | .loadCharacterById characterId => db.load fails (Loading.loadCharacterById characterId)
  | .inventoryItems characterId => orEmpty (db.query fails (.items characterId))
  | r => outside r

/-! ### What is stored -/

def storedOf (characterId : Int64) (row : CharacterRow) : CharacterInfo where
  characterId
  name := row.name
  classId := row.classId
  gender := row.gender
  level := row.level
  exp := row.exp
  gold := row.gold
  defaultSkins := defaultSkinsFromIds row.hairFashionId row.clothesFashionId row.skinFashionId
  fashions := db.fashionInfos characterId
  equipments := db.equipmentInfos characterId
  armaments := db.featureInfos .characterArmaments characterId
  armamentAppearanceId := row.armamentAppearanceId
  skillSlots := db.featureInfos .characterSkillSlots characterId
  pets := db.featureInfos .characterPets characterId
  activePetId := row.activePetId
  partners := db.featureInfos .characterPartners characterId
  activePartnerId := row.activePartnerId

def storedCharacter (characterId : Int64) : Option CharacterInfo :=
  (db.characters.get characterId).map fun row => db.storedOf characterId row

def storedInventory (characterId : Int64) : InventoryInfo where
  items := db.itemInfos characterId
  equipments := db.equipmentInfos characterId
  fashions := db.fashionInfos characterId

/-- The lists whose queries fail are empty anyway. -/
structure Spares (characterId : Int64) : Prop where
  fashions : fails (.fashions characterId) = true → db.fashionInfos characterId = []
  equipments : fails (.equipments characterId) = true → db.equipmentInfos characterId = []
  features : ∀ t, fails (.features t characterId) = true → db.featureInfos t characterId = []
  items : fails (.items characterId) = true → db.itemInfos characterId = []

/-! ### What is loaded -/

variable {db fails} {characterId : Int64}

/-- What becomes of a list whose query may fail. -/
def listed {α : Type} (failed : Bool) (rows : List α) : List α := if failed then [] else rows

theorem listed_eq_iff {α : Type} {failed : Bool} {rows : List α} :
    listed failed rows = rows ↔ (failed = true → rows = []) := by
  unfold listed
  split_ifs with h
  · simp [h, eq_comm]
  · simp [h]

theorem orEmpty_ite {α : Type} {failed : Bool} {rows : List α} {message : String} :
    orEmpty (if failed = true then .error message else .ok rows) = listed failed rows := by
  unfold listed
  split_ifs
  · rfl
  · rfl

theorem orZero_column {row : CharacterRow} {column : CharacterRow → Int32} {failed : Bool} {message : String}
    (h : db.characters.get characterId = some row) :
    (if orZero (if failed = true then .error message else .ok ((db.characters.get characterId).map column)) = 0 then
        column row
      else orZero (if failed = true then .error message else .ok ((db.characters.get characterId).map column))) =
      column row := by
  rw [h]
  cases failed with
  | false => exact ite_self _
  | true => exact if_pos rfl

/-- A character without the lists whose queries fail. -/
def without (fails : Query → Bool) (c : CharacterInfo) : CharacterInfo :=
  { c with
    fashions := listed (fails (.fashions c.characterId)) c.fashions
    equipments := listed (fails (.equipments c.characterId)) c.equipments
    armaments := listed (fails (.features .characterArmaments c.characterId)) c.armaments
    skillSlots := listed (fails (.features .characterSkillSlots c.characterId)) c.skillSlots
    pets := listed (fails (.features .characterPets c.characterId)) c.pets
    partners := listed (fails (.features .characterPartners c.characterId)) c.partners }

theorem load_eq (hcharacter : fails (.character characterId) = false) {row : CharacterRow}
    (hrow : db.characters.get characterId = some row) :
    db.load fails (Loading.loadCharacterById characterId) = some (without fails (db.storedOf characterId row)) := by
  have hquery : db.query fails (.character characterId) = .ok (some row) := by
    rw [query, hcharacter, ← hrow]
    rfl
  unfold load Loading.loadCharacterById
  rw [Program.eval_bind]
  change (Program.eval _ (match db.query fails (.character characterId) with
    | .ok (some row) => _
    | _ => _) ()).1 = _
  rw [hquery]
  change some (rowToCharacter characterId row (orEmpty (db.query fails (.fashions characterId)))
    (orEmpty (db.query fails (.equipments characterId))) {
      armaments := orEmpty (db.query fails (.features .characterArmaments characterId))
      armamentAppearanceId := orZero (db.query fails (.armamentAppearanceId characterId))
      skillSlots := orEmpty (db.query fails (.features .characterSkillSlots characterId))
      pets := orEmpty (db.query fails (.features .characterPets characterId))
      activePetId := orZero (db.query fails (.activePetId characterId))
      partners := orEmpty (db.query fails (.features .characterPartners characterId))
      activePartnerId := orZero (db.query fails (.activePartnerId characterId)) }) = _
  unfold rowToCharacter query select
  simp only [orEmpty_ite]
  refine congrArg some ?_
  unfold without storedOf
  congr 1
  · exact orZero_column hrow
  · exact orZero_column hrow
  · exact orZero_column hrow

theorem load_none (hcharacter : fails (.character characterId) = true) :
    db.load fails (Loading.loadCharacterById characterId) = none := by
  have hquery : db.query fails (.character characterId) = .error "query failed" := by
    rw [query, hcharacter]
    rfl
  unfold load Loading.loadCharacterById
  rw [Program.eval_bind]
  change (Program.eval _ (match db.query fails (.character characterId) with
    | .ok (some row) => _
    | _ => _) ()).1 = _
  rw [hquery]
  rfl

theorem without_eq_iff (row : CharacterRow) :
    without fails (db.storedOf characterId row) = db.storedOf characterId row ∧
        listed (fails (.items characterId)) (db.itemInfos characterId) = db.itemInfos characterId ↔
      db.Spares fails characterId := by
  unfold without storedOf
  simp only [CharacterInfo.mk.injEq, true_and, and_true, listed_eq_iff]
  constructor
  · rintro ⟨⟨hfashions, hequipments, harmaments, hslots, hpets, hpartners⟩, hitems⟩
    refine ⟨hfashions, hequipments, fun t => ?_, hitems⟩
    cases t with
    | characterArmaments => exact harmaments
    | characterSkillSlots => exact hslots
    | characterPets => exact hpets
    | characterPartners => exact hpartners
  · intro h
    exact ⟨⟨h.fashions, h.equipments, h.features .characterArmaments, h.features .characterSkillSlots,
      h.features .characterPets, h.features .characterPartners⟩, h.items⟩

/-! ### What is returned and kept -/

variable (db fails) (outside : (r : Request) → r.Answer) (d : Delegate) (characterId) (g : GameState)

/-- The handler, run against the database. -/
def selected : (Delegate × SelectCharacterResp) × GameState :=
  (d.handleSelectCharacter characterId).eval (GameState.exec (db.answers fails outside)) g

variable {db characterId} in
theorem owned_eq {playerId id : Int64} (h : db.select (.owned characterId playerId) = some id) : characterId = id := by
  have howned : (if db.characters.contains characterId ∧ db.players.get characterId = some playerId then
      some characterId else none) = some id := h
  split_ifs at howned
  exact Option.some.inj howned

theorem orEmpty_items : orEmpty (db.query fails (.items characterId)) =
    listed (fails (.items characterId)) (db.itemInfos characterId) := by
  unfold query select
  exact orEmpty_ite

variable {db characterId} in
theorem exists_row {playerId : Int64} (h : db.select (.owned characterId playerId) = some characterId) :
    ∃ row, db.characters.get characterId = some row := by
  have howned : (if db.characters.contains characterId ∧ db.players.get characterId = some playerId then
      some characterId else none) = some characterId := h
  split_ifs at howned with hcontains
  exact Option.isSome_iff_exists.1 hcontains.1

variable {d} in
theorem selected_eq {playerId : Int64} (haccount : d.accountId = some playerId) :
    db.selected fails characterId outside d g =
      match db.query fails (.owned characterId playerId) with
      | .error _ => ((d, { code := -1, message := "服务器内部错误" }), g)
      | .ok none => ((d, { code := 2, message := "角色不存在或不属于当前账号" }), g)
      | .ok (some id) =>
          match db.load fails (Loading.loadCharacterById id) with
          | none => ((d, { code := 2, message := "角色不存在或不属于当前账号" }), g)
          | some character =>
              (({ d with selectedCharacter := some character }, {
                code := 0
                message := ""
                character := some character
                inventory := some {
                  items := orEmpty (db.query fails (.items id))
                  equipments := character.equipments
                  fashions := character.fashions } }),
                { g with selectedCharacters := g.selectedCharacters.insert d.sessionId character }) := by
  unfold selected Delegate.handleSelectCharacter
  rw [haccount]
  dsimp only
  rw [Program.eval_bind]
  change Program.eval _ (match db.query fails (.owned characterId playerId) with
    | .error _ => _
    | .ok none => _
    | .ok (some id) => _) g = _
  rcases db.query fails (.owned characterId playerId) with message | (_ | id)
  · rfl
  · rfl
  · dsimp only
    rw [Program.eval_bind]
    generalize hload : (Program.eval (GameState.exec (db.answers fails outside))
      (GameOp.perform (.request (.loadCharacterById id))) g).1 = found
    change db.load fails (Loading.loadCharacterById id) = found at hload
    rw [hload]
    cases found with
    | none => rfl
    | some character => rfl

/-- A selection that succeeds returns and keeps what is stored. -/
def SelectsStored : Prop :=
  (db.selected fails characterId outside d g).1.2.code = 0 →
    ∃ c, db.storedCharacter characterId = some c ∧
      (db.selected fails characterId outside d g).1.2.character = some c ∧
      (db.selected fails characterId outside d g).1.2.inventory = some (db.storedInventory characterId) ∧
      (db.selected fails characterId outside d g).1.1.selectedCharacter = some c ∧
      (db.selected fails characterId outside d g).2.selectedCharacters.get d.sessionId = some c

end CharacterDatabase

namespace Sample

/-- The character 1 of the player 10, who has a pet. -/
def kennel : CharacterDatabase where
  characters := (∅ : Table Int64 CharacterRow).insert 1 { name := "a" }
  features
    | .characterPets => (∅ : Table (Int64 × Int) PetInfo).insert (1, 3) { configId := 3, level := 1, star := 0 }
    | _ => ∅
  players := (∅ : Table Int64 Int64).insert 1 10

end Sample

end AxmolFighter.Game
