import AxmolFighter.Game.Character
import AxmolFighter.Lib.Rows

/-!
# The database of the game server

`migrations/*.sql`: what is stored about characters, with the primary keys as keys of the tables. The
statements are those of `player/progress.rs`; a statement that breaks a constraint fails. The queries are
those of `game_shared/data.rs`, which build a character from the rows.
-/

namespace AxmolFighter.Game

/-- The columns of `characters` that are read. -/
structure CharacterRow where
  name : String
  classId : Int32 := 0
  gender : Int32 := 0
  level : Int32 := 1
  exp : Int64 := 0
  gold : Int64 := 0
  hairFashionId : Int32 := 0
  clothesFashionId : Int32 := 0
  skinFashionId : Int32 := 0
  armamentAppearanceId : Int32 := 0
  activePetId : Int32 := 0
  activePartnerId : Int32 := 0

structure FashionRow where
  characterId : Int64
  configId : Int32
  position : Int32
  worn : Bool

structure EquipmentRow where
  ownerCharacterId : Int64
  configId : Int64
  enhanceLevel : Int32
  refineLevel : Int32
  slot : Int32

/-- The tables with a primary key of two columns, the first of which is the character. -/
inductive FeatureTable
  | characterArmaments
  | characterSkillSlots
  | characterPets
  | characterPartners
deriving DecidableEq

namespace FeatureTable

@[reducible] def Row : FeatureTable → Type
  | characterArmaments => ArmamentInfo
  | characterSkillSlots => SkillSlotInfo
  | characterPets => PetInfo
  | characterPartners => PartnerInfo

/-- The second column of the key. -/
def key : (t : FeatureTable) → t.Row → Int
  | characterArmaments, row => row.configId.toInt
  | characterSkillSlots, row => row.slot.toInt
  | characterPets, row => row.configId.toInt
  | characterPartners, row => row.configId.toInt

end FeatureTable

structure CharacterTables where
  characters : Table Int64 CharacterRow := ∅
  equipments : Serial EquipmentRow := ∅
  fashions : Serial FashionRow := ∅
  features : (t : FeatureTable) → Table (Int64 × Int) t.Row := fun _ => ∅

/-! ### Statements -/

inductive Statement
  | deleteFashions (characterId : Int64)
  | insertFashion (row : FashionRow)
  | deleteRows (t : FeatureTable) (characterId : Int64)
  | insertRow (t : FeatureTable) (characterId : Int64) (row : t.Row)
  | updateArmamentAppearanceId (characterId : Int64) (value : Int32)
  | updateActivePetId (characterId : Int64) (value : Int32)
  | updateActivePartnerId (characterId : Int64) (value : Int32)

namespace CharacterTables

variable (db : CharacterTables)

def setFeature (t : FeatureTable) (rows : Table (Int64 × Int) t.Row) : CharacterTables :=
  { db with features := Function.update db.features t rows }

/-- The character is there for a reference to it, and the next id is one. -/
def acceptsFashion (characterId : Int64) : Bool :=
  db.characters.contains characterId && decide (db.fashions.nextId < 2 ^ 63)

/-- What a statement makes of the database, if it breaks no constraint. -/
def execute : Statement → Option CharacterTables
  | .deleteFashions characterId =>
      some { db with fashions := db.fashions.delete fun row => row.characterId = characterId }
  | .insertFashion row =>
      if db.acceptsFashion row.characterId then some { db with fashions := db.fashions.insert row } else none
  | .deleteRows t characterId =>
      some (db.setFeature t ((db.features t).retain fun k _ => k.1 ≠ characterId))
  | .insertRow t characterId row =>
      if db.characters.contains characterId && !(db.features t).contains (characterId, t.key row) then
        some (db.setFeature t ((db.features t).insert (characterId, t.key row) row))
      else none
  | .updateArmamentAppearanceId characterId value =>
      some { db with characters := db.characters.modify characterId fun row =>
        { row with armamentAppearanceId := value } }
  | .updateActivePetId characterId value =>
      some { db with characters := db.characters.modify characterId fun row =>
        { row with activePetId := value } }
  | .updateActivePartnerId characterId value =>
      some { db with characters := db.characters.modify characterId fun row =>
        { row with activePartnerId := value } }

def executeAll : List Statement → CharacterTables → Option CharacterTables
  | [], db => some db
  | s :: rest, db => (db.execute s).bind (executeAll rest)

/-! ### Queries -/

/-- `SELECT … WHERE character_id = … ORDER BY` the second column of the key. -/
def rowsOf (t : FeatureTable) (characterId : Int64) : List ((Int64 × Int) × t.Row) :=
  (db.features t).select (fun k _ => k.1 = characterId) Prod.snd

/-- `SELECT … WHERE character_id = … ORDER BY id`. -/
def fashionsOf (characterId : Int64) : List (Nat × FashionRow) :=
  db.fashions.select fun row => row.characterId = characterId

def equipmentsOf (characterId : Int64) : List (Nat × EquipmentRow) :=
  db.equipments.select fun row => row.ownerCharacterId = characterId

end CharacterTables

structure CharacterProgress where
  armaments : List ArmamentInfo := []
  armamentAppearanceId : Int32 := 0
  skillSlots : List SkillSlotInfo := []
  pets : List PetInfo := []
  activePetId : Int32 := 0
  partners : List PartnerInfo := []
  activePartnerId : Int32 := 0

def FashionRow.toInfo (id : Nat) (row : FashionRow) : FashionInfo where
  id := .ofNat id
  configId := row.configId
  position := row.position
  worn := row.worn

def EquipmentRow.toInfo (id : Nat) (row : EquipmentRow) : EquipmentInfo where
  id := .ofNat id
  configId := row.configId
  enhanceLevel := row.enhanceLevel
  refineLevel := row.refineLevel
  enchantProps := []
  slot := row.slot

namespace CharacterTables

variable (db : CharacterTables) (characterId : Int64)

def loadCharacterLists : List FashionInfo × List EquipmentInfo :=
  ((db.fashionsOf characterId).map fun e => e.2.toInfo e.1,
    (db.equipmentsOf characterId).map fun e => e.2.toInfo e.1)

def loadCharacterProgress : CharacterProgress where
  armaments := (db.rowsOf .characterArmaments characterId).map Prod.snd
  armamentAppearanceId := ((db.characters.get characterId).map fun row => row.armamentAppearanceId).getD 0
  skillSlots := (db.rowsOf .characterSkillSlots characterId).map Prod.snd
  pets := (db.rowsOf .characterPets characterId).map Prod.snd
  activePetId := ((db.characters.get characterId).map fun row => row.activePetId).getD 0
  partners := (db.rowsOf .characterPartners characterId).map Prod.snd
  activePartnerId := ((db.characters.get characterId).map fun row => row.activePartnerId).getD 0

end CharacterTables

def posClothes : Int32 := 2
def posHair : Int32 := 4
def posSkin : Int32 := 7

def defaultSkinsFromIds (hairId clothesId skinId : Int32) : List DefaultSkin :=
  (if 0 < hairId then [⟨posHair, hairId⟩] else []) ++
    (if 0 < clothesId then [⟨posClothes, clothesId⟩] else []) ++
      (if 0 < skinId then [⟨posSkin, skinId⟩] else [])

/-- The columns of the row stand in for what the progress has none of. -/
def rowToCharacter (characterId : Int64) (row : CharacterRow) (fashions : List FashionInfo)
    (equipments : List EquipmentInfo) (progress : CharacterProgress) : CharacterInfo where
  characterId
  name := row.name
  classId := row.classId
  gender := row.gender
  level := row.level
  exp := row.exp
  gold := row.gold
  defaultSkins := defaultSkinsFromIds row.hairFashionId row.clothesFashionId row.skinFashionId
  fashions
  equipments
  armaments := progress.armaments
  armamentAppearanceId :=
    if progress.armamentAppearanceId = 0 then row.armamentAppearanceId else progress.armamentAppearanceId
  skillSlots := progress.skillSlots
  pets := progress.pets
  activePetId := if progress.activePetId = 0 then row.activePetId else progress.activePetId
  partners := progress.partners
  activePartnerId := if progress.activePartnerId = 0 then row.activePartnerId else progress.activePartnerId

namespace CharacterTables

variable (db : CharacterTables) (characterId : Int64)

def loadCharacterById : Option CharacterInfo :=
  (db.characters.get characterId).map fun row =>
    let (fashions, equipments) := db.loadCharacterLists characterId
    rowToCharacter characterId row fashions equipments (db.loadCharacterProgress characterId)

/-! ### What statements leave alone -/

theorem features_setFeature (t : FeatureTable) (rows : Table (Int64 × Int) t.Row) :
    (db.setFeature t rows).features t = rows := Function.update_self ..

theorem fashionsOf_delete : fashionsOf { db with
    fashions := db.fashions.delete fun row => row.characterId = characterId } characterId = [] :=
  Serial.select_delete _ _

@[simp] theorem characters_setFeature (t : FeatureTable) (rows : Table (Int64 × Int) t.Row) :
    (db.setFeature t rows).characters = db.characters := rfl

end CharacterTables

end AxmolFighter.Game
