import Mathlib.Data.Int.Notation

/-!
# Characters

`game_types.proto`: what a character consists of. The game server keeps a copy of a selected character
for the session's delegate and one for the others, and the requests of `player/progress.rs` change parts
of both.
-/

namespace AxmolFighter.Game

structure DefaultSkin where
  position : Int32
  resFashionId : Int32
deriving DecidableEq

structure FashionInfo where
  id : Int64
  configId : Int32
  position : Int32
  worn : Bool
deriving DecidableEq

structure EnchantProp where
  attrId : Int32
  value : Int32
deriving DecidableEq

structure EquipmentInfo where
  id : Int64
  configId : Int64
  enhanceLevel : Int32
  refineLevel : Int32
  enchantProps : List EnchantProp
  slot : Int32
deriving DecidableEq

structure ItemInfo where
  id : Int64
  configId : Int64
  count : Int32
deriving DecidableEq

structure InventoryInfo where
  items : List ItemInfo
  equipments : List EquipmentInfo
  fashions : List FashionInfo
deriving DecidableEq

structure ArmamentInfo where
  configId : Int32
  level : Int32
  star : Int32
  grade : Int32
  skinId : Int32
  skillId : Int32
deriving DecidableEq

structure SkillSlotInfo where
  slot : Int32
  leafId : Int32
deriving DecidableEq

structure PetInfo where
  configId : Int32
  level : Int32
  star : Int32
deriving DecidableEq

structure PartnerInfo where
  configId : Int32
  level : Int32
  star : Int32
deriving DecidableEq

structure CharacterInfo where
  characterId : Int64
  name : String
  classId : Int32
  gender : Int32
  level : Int32
  exp : Int64
  gold : Int64
  defaultSkins : List DefaultSkin := []
  fashions : List FashionInfo := []
  equipments : List EquipmentInfo := []
  armaments : List ArmamentInfo := []
  armamentAppearanceId : Int32 := 0
  skillSlots : List SkillSlotInfo := []
  pets : List PetInfo := []
  activePetId : Int32 := 0
  partners : List PartnerInfo := []
  activePartnerId : Int32 := 0
deriving DecidableEq

/-- The requests that change the progress of the selected character. -/
inductive ProgressReq
  | fashionWear (fashions : List FashionInfo)
  | armamentSync (armaments : List ArmamentInfo) (appearanceId : Int32)
  | skillSlotsSync (slots : List SkillSlotInfo)
  | petSync (pets : List PetInfo) (activePetId : Int32)
  | partnerSync (partners : List PartnerInfo) (activePartnerId : Int32)
deriving DecidableEq

/-- What a request that is saved makes of the delegate's copy. -/
def ProgressReq.refresh (characterId : Int64) (c : CharacterInfo) : ProgressReq → CharacterInfo
  | .fashionWear fashions => if c.characterId = characterId then { c with fashions } else c
  | .armamentSync armaments appearanceId =>
      { c with armaments, armamentAppearanceId := max appearanceId 0 }
  | .skillSlotsSync slots => { c with skillSlots := slots }
  | .petSync pets activePetId => { c with pets, activePetId := max activePetId 0 }
  | .partnerSync partners activePartnerId =>
      { c with partners, activePartnerId := max activePartnerId 0 }

end AxmolFighter.Game
