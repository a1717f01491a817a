import TaggedStory.Story.Node
/-!
The records of nodes. A record names its kind; the fields of the header come first, then those that
choices and cards share, then the kind and the rest. Fields that no kind models stay with the
header.
-/
set_option autoImplicit false

namespace TaggedStory

namespace NodeFields

def textList : Codec (List String) := Record.text.list
def objectList : Codec (List Json.Fields) := Record.object.list
def conditionList : Codec (List Condition) := Condition.codec.list
def effectList : Codec (List Effect) := Effect.schema.codec.list
def rateList : Codec (List Rate) := Rate.schema.codec.list
def overrideList : Codec (List Override) := Override.schema.codec.list

end NodeFields

open NodeFields

def Header.fields : List (Field Header) := [
  .of "nodeId" "node_id" Record.text (·.id) fun x r => { r with id := x },
  .of "nodeName" "node_name" Record.text (·.name) fun x r => { r with name := x },
  .of "title" "title" Record.text (·.title) fun x r => { r with title := x },
  .of "nextNodeIds" "next_node_ids" textList (·.next) fun x r => { r with next := x },
  .of "isActive" "is_active" Record.flag (·.isActive) fun x r => { r with isActive := x },
  .of "position" "position" Position.codec (·.position) fun x r => { r with position := x }]

def Video.fields : List (Field Video) := [
  .of "videoClipPath" "video_clip_path" Record.text (·.clipPath)
    fun x r => { r with clipPath := x },
  .of "imagePath" "image_path" Record.text (·.imagePath) fun x r => { r with imagePath := x },
  .of "displayType" "display_type" Record.integer (·.displayType)
    fun x r => { r with displayType := x },
  .of "thumbnailPath" "thumbnail_path" Record.text (·.thumbnailPath)
    fun x r => { r with thumbnailPath := x },
  .of "autoPlayNext" "auto_play_next" Record.flag (·.autoPlayNext)
    fun x r => { r with autoPlayNext := x },
  .of "loop" "loop" Record.flag (·.loop) fun x r => { r with loop := x },
  .of "volume" "volume" Record.decimal (·.volume) fun x r => { r with volume := x },
  .of "waitForSubtitles" "wait_for_subtitles" Record.flag (·.waitForSubtitles)
    fun x r => { r with waitForSubtitles := x },
  .of "canSkipSubtitles" "can_skip_subtitles" Record.flag (·.canSkipSubtitles)
    fun x r => { r with canSkipSubtitles := x },
  .of "subtitles" "subtitles" Record.object (·.subtitles) fun x r => { r with subtitles := x },
  .of "duration" "duration" Record.decimal (·.duration) fun x r => { r with duration := x },
  .of "description" "description" Record.text (·.description)
    fun x r => { r with description := x },
  .of "showWhenUnavailable" "show_when_unavailable" Record.flag (·.showWhenUnavailable)
    fun x r => { r with showWhenUnavailable := x },
  .of "conditions" "conditions" conditionList (·.conditions) fun x r => { r with conditions := x },
  .of "effects" "effects" effectList (·.effects) fun x r => { r with effects := x },
  .of "rateEffects" "rate_effects" rateList (·.rates) fun x r => { r with rates := x },
  .of "isCheckpoint" "is_checkpoint" Record.flag (·.isCheckpoint)
    fun x r => { r with isCheckpoint := x },
  .of "isEndpoint" "is_endpoint" Record.flag (·.isEndpoint) fun x r => { r with isEndpoint := x },
  .of "isDeadpoint" "is_deadpoint" Record.flag (·.isDeadpoint)
    fun x r => { r with isDeadpoint := x },
  .of "isBlackScreen" "is_black_screen" Record.flag (·.isBlackScreen)
    fun x r => { r with isBlackScreen := x },
  .of "isResetToCP" "is_reset_to_cp" Record.flag (·.isReset) fun x r => { r with isReset := x },
  .of "isMemory" "is_memory" Record.flag (·.isMemory) fun x r => { r with isMemory := x },
  .of "memoryId" "memory_id" Record.text (·.memoryId) fun x r => { r with memoryId := x },
  .of "memoryName" "memory_name" Record.text (·.memoryName) fun x r => { r with memoryName := x },
  .of "memoryDescription" "memory_description" Record.text (·.memoryDescription)
    fun x r => { r with memoryDescription := x },
  .of "isDialogNode" "is_dialog_node" Record.flag (·.isDialog) fun x r => { r with isDialog := x },
  .of "dialogText" "dialog_text" Record.text (·.dialogText) fun x r => { r with dialogText := x },
  .of "dialogSpeaker" "dialog_speaker" Record.text (·.dialogSpeaker)
    fun x r => { r with dialogSpeaker := x },
  .of "typingSpeed" "typing_speed" Record.decimal (·.typingSpeed)
    fun x r => { r with typingSpeed := x },
  .of "dialogAudioPath" "dialog_audio_path" Record.text (·.dialogAudioPath)
    fun x r => { r with dialogAudioPath := x },
  .of "unlockAchievement" "unlock_achievement" Record.flag (·.unlockAchievement)
    fun x r => { r with unlockAchievement := x },
  .of "unlockAchievementName" "unlock_achievement_name" Record.text (·.achievementName)
    fun x r => { r with achievementName := x },
  .of "analyticsKey" "analytics_key" Record.text (·.analyticsKey)
    fun x r => { r with analyticsKey := x },
  .of "isRandom" "is_random" Record.flag (·.isRandom) fun x r => { r with isRandom := x },
  .of "probabilityExpression" "probability_expression" Record.text (·.probabilityExpression)
    fun x r => { r with probabilityExpression := x },
  .of "hasRandomTimeEvent" "has_random_time_event" Record.flag (·.hasRandomTime)
    fun x r => { r with hasRandomTime := x },
  .of "randomTimeMinSeconds" "random_time_min_seconds" Record.number (·.randomTimeMin)
    fun x r => { r with randomTimeMin := x },
  .of "randomTimeMaxSeconds" "random_time_max_seconds" Record.number (·.randomTimeMax)
    fun x r => { r with randomTimeMax := x },
  .of "showVariableBar" "show_variable_bar" Record.flag (·.showVariableBar)
    fun x r => { r with showVariableBar := x },
  .of "variableBarName" "variable_bar_name" Record.text (·.variableBarName)
    fun x r => { r with variableBarName := x },
  .of "variableBarDefaultValue" "variable_bar_default_value" Record.text (·.variableBarDefault)
    fun x r => { r with variableBarDefault := x },
  .of "variableBarColor" "variable_bar_color" Record.text (·.variableBarColor)
    fun x r => { r with variableBarColor := x },
  .of "variableBarPosition" "variable_bar_position" Record.text (·.variableBarPosition)
    fun x r => { r with variableBarPosition := x },
  .of "isJumpPoint" "is_jump_point" Record.flag (·.isJumpPoint)
    fun x r => { r with isJumpPoint := x },
  .of "jumpPointId" "jump_point_id" Record.text (·.jumpPointId)
    fun x r => { r with jumpPointId := x },
  .of "jumpPointDescription" "jump_point_description" Record.text (·.jumpPointDescription)
    fun x r => { r with jumpPointDescription := x },
  .of "isProductShowcase" "is_product_showcase" Record.flag (·.isShowcase)
    fun x r => { r with isShowcase := x },
  .of "showcaseProductIds" "showcase_product_ids" textList (·.showcaseProducts)
    fun x r => { r with showcaseProducts := x },
  .of "showcaseDisplayDuration" "showcase_display_duration" Record.decimal (·.showcaseDuration)
    fun x r => { r with showcaseDuration := x },
  .of "showcaseAutoHide" "showcase_auto_hide" Record.flag (·.showcaseAutoHide)
    fun x r => { r with showcaseAutoHide := x },
  .of "showcasePosition" "showcase_position" Position.codec (·.showcasePosition)
    fun x r => { r with showcasePosition := x },
  .of "showcaseSize" "showcase_size" Position.codec (·.showcaseSize)
    fun x r => { r with showcaseSize := x },
  .of "showcaseOnlyShowUnpurchased" "showcase_only_show_unpurchased" Record.flag
    (·.showcaseOnlyUnpurchased) fun x r => { r with showcaseOnlyUnpurchased := x },
  .of "showcaseHideIfAllPurchased" "showcase_hide_if_all_purchased" Record.flag
    (·.showcaseHidePurchased) fun x r => { r with showcaseHidePurchased := x },
  .of "showcaseEnableScrollAnimation" "showcase_enable_scroll_animation" Record.flag
    (·.showcaseScroll) fun x r => { r with showcaseScroll := x },
  .of "maxDefaultValueOverrides" "max_default_value_overrides" overrideList (·.maxOverrides)
    fun x r => { r with maxOverrides := x },
  .of "minDefaultValueOverrides" "min_default_value_overrides" overrideList (·.minOverrides)
    fun x r => { r with minOverrides := x }]

def Offer.fields : List (Field Offer) := [
  .of "conditions" "conditions" conditionList (·.conditions) fun x r => { r with conditions := x },
  .of "effects" "effects" effectList (·.effects) fun x r => { r with effects := x },
  .of "requireAd" "require_ad" Record.flag (·.requireAd) fun x r => { r with requireAd := x },
  .of "adType" "ad_type" Record.text (·.adType) fun x r => { r with adType := x },
  .of "isOverlayImageChoice" "is_overlay_image_choice" Record.flag (·.isOverlay)
    fun x r => { r with isOverlay := x },
  .of "overlayImageName" "overlay_image_name" Record.text (·.overlayImage)
    fun x r => { r with overlayImage := x },
  .of "isClickable" "is_clickable" Record.flag (·.isClickable)
    fun x r => { r with isClickable := x },
  .of "tierIndex" "tier_index" Record.integer (·.tier) fun x r => { r with tier := x },
  .of "showWhenUnavailable" "show_when_unavailable" Record.flag (·.showWhenUnavailable)
    fun x r => { r with showWhenUnavailable := x },
  .of "unavailableMessage" "unavailable_message" Record.text (·.unavailableMessage)
    fun x r => { r with unavailableMessage := x },
  .of "unlockAchievement" "unlock_achievement" Record.flag (·.unlockAchievement)
    fun x r => { r with unlockAchievement := x },
  .of "unlockAchievementName" "unlock_achievement_name" Record.text (·.achievementName)
    fun x r => { r with achievementName := x },
  .of "isDeadpoint" "is_deadpoint" Record.flag (·.isDeadpoint)
    fun x r => { r with isDeadpoint := x },
  .of "preDisplay" "pre_display" Record.flag (·.preDisplay) fun x r => { r with preDisplay := x },
  .of "animationDuration" "animation_duration" Record.decimal (·.animationDuration)
    fun x r => { r with animationDuration := x },
  .of "description" "description" Record.text (·.description)
    fun x r => { r with description := x }]

def Choice.fields : List (Field Choice) := [
  .of "choiceText" "choice_text" Record.text (·.text) fun x r => { r with text := x },
  .of "isProbabilityChoice" "is_probability_choice" Record.flag (·.isProbability)
    fun x r => { r with isProbability := x },
  .of "probability" "probability" Record.number (·.probability)
    fun x r => { r with probability := x },
  .of "maxCount" "max_count" Record.integer (·.maxCount) fun x r => { r with maxCount := x },
  .of "probabilityExpression" "probability_expression" Record.text (·.probabilityExpression)
    fun x r => { r with probabilityExpression := x },
  .of "groupId" "group_id" Record.text (·.groupId) fun x r => { r with groupId := x },
  .of "dynamicTextPattern" "dynamic_text_pattern" Record.text (·.dynamicText)
    fun x r => { r with dynamicText := x }]

def Card.fields : List (Field Card) := [
  .of "cardName" "card_name" Record.text (·.name) fun x r => { r with name := x },
  .of "cardSizeX" "card_size_x" Record.decimal (·.sizeX) fun x r => { r with sizeX := x },
  .of "cardSizeY" "card_size_y" Record.decimal (·.sizeY) fun x r => { r with sizeY := x },
  .of "isCheckpoint" "is_checkpoint" Record.flag (·.isCheckpoint)
    fun x r => { r with isCheckpoint := x }]

def Bgm.fields : List (Field Bgm) := [
  .of "audioFile" "audio_file" Record.text (·.audioFile) fun x r => { r with audioFile := x },
  .of "volume" "volume" Record.number (·.volume) fun x r => { r with volume := x },
  .of "isCheckpoint" "is_checkpoint" Record.flag (·.isCheckpoint)
    fun x r => { r with isCheckpoint := x }]

def Jump.fields : List (Field Jump) := [
  .of "jumpPointId" "jump_point_id" Record.text (·.point) fun x r => { r with point := x },
  .of "description" "description" Record.text (·.description)
    fun x r => { r with description := x },
  .of "jumpPointActive" "jump_point_active" Record.flag (·.isPointActive)
    fun x r => { r with isPointActive := x },
  .of "isDeadpoint" "is_deadpoint" Record.flag (·.isDeadpoint)
    fun x r => { r with isDeadpoint := x },
  .of "isResetToCP" "is_reset_to_cp" Record.flag (·.isReset) fun x r => { r with isReset := x },
  .of "isCheckpoint" "is_checkpoint" Record.flag (·.isCheckpoint)
    fun x r => { r with isCheckpoint := x }]

def Task.fields : List (Field Task) := [
  .of "maxDisplayCount" "max_display_count" Record.integer (·.maxDisplayCount)
    fun x r => { r with maxDisplayCount := x },
  .of "tasks" "tasks" objectList (·.tasks) fun x r => { r with tasks := x },
  .of "isCheckpoint" "is_checkpoint" Record.flag (·.isCheckpoint)
    fun x r => { r with isCheckpoint := x }]

def Tip.fields : List (Field Tip) := [
  .of "tipText" "tip_text" Record.text (·.text) fun x r => { r with text := x },
  .of "requireAd" "require_ad" Record.flag (·.requireAd) fun x r => { r with requireAd := x },
  .of "adType" "ad_type" Record.text (·.adType) fun x r => { r with adType := x },
  .of "isResetToCP" "is_reset_to_cp" Record.flag (·.isReset) fun x r => { r with isReset := x }]

/-- The kind of a record is fixed; another word is an issue. -/
def Kind.field (R : Type) (kind : Kind) : Field R where
  key := "kind"
  name := "kind"
  isRequired := false
  read
    | .str word => if word = kind.word then .ok id else .error (.one [] .wrongKind)
    | _ => .error (.one [] .wrongKind)
  write _ := .str kind.word
  brief _ := .str kind.word

namespace NodeOf

variable {B : Type}

def headerFields : List (Field (NodeOf B)) :=
  Header.fields.map (Field.lift (·.header) mapHeader)

def bodyFields (fields : List (Field B)) : List (Field (NodeOf B)) :=
  fields.map (Field.lift (·.body) updateBody)

/-- The record of a kind; `shared` are the fields in front of the kind. -/
def schemaOf (kind : Kind) (initial : B) (shared own : List (Field B)) : Schema (NodeOf B) where
  initial := ⟨{}, initial⟩
  keep entries := mapHeader fun header => { header with extras := entries }
  extras node := node.header.extras
  fields := headerFields ++ bodyFields shared ++ Kind.field (NodeOf B) kind :: bodyFields own

end NodeOf

def Choice.offerFields : List (Field Choice) :=
  Offer.fields.map (Field.lift (·.offer) fun change choice =>
    { choice with offer := change choice.offer })

def Card.offerFields : List (Field Card) :=
  Offer.fields.map (Field.lift (·.offer) fun change card =>
    { card with offer := change card.offer })

def Video.schema : Schema (NodeOf Video) := NodeOf.schemaOf .video {} [] Video.fields
def Choice.schema : Schema (NodeOf Choice) :=
  NodeOf.schemaOf .choice {} Choice.offerFields Choice.fields
def Card.schema : Schema (NodeOf Card) := NodeOf.schemaOf .card {} Card.offerFields Card.fields
def Bgm.schema : Schema (NodeOf Bgm) := NodeOf.schemaOf .bgm {} [] Bgm.fields
def Jump.schema : Schema (NodeOf Jump) := NodeOf.schemaOf .jump {} [] Jump.fields
def Task.schema : Schema (NodeOf Task) := NodeOf.schemaOf .task {} [] Task.fields
def Tip.schema : Schema (NodeOf Tip) := NodeOf.schemaOf .tip {} [] Tip.fields

namespace Node

def readAs (kind : Kind) (value : Json) : Attempt Node :=
  match kind with
  | .video => (Video.schema.read value).map (·.mapBody .video)
  | .choice => (Choice.schema.read value).map (·.mapBody .choice)
  | .card => (Card.schema.read value).map (·.mapBody .card)
  | .bgm => (Bgm.schema.read value).map (·.mapBody .bgm)
  | .jump => (Jump.schema.read value).map (·.mapBody .jump)
  | .task => (Task.schema.read value).map (·.mapBody .task)
  | .tip => (Tip.schema.read value).map (·.mapBody .tip)

/-- The kind decides which record is read, and stands in the path of its issues. -/
def read : Json → Attempt Node
  | .obj entries =>
    match Json.lookup? "kind" entries with
    | none => .error (.one [] .missingKind)
    | some (.str word) =>
      match Kind.ofWord? word with
      | some kind => (readAs kind (.obj entries)).within kind.word
      | none => .error (.one [] .unknownKind)
    | some _ => .error (.one [] .unknownKind)
  | _ => .error (.one [] .notRecordLike)

def write (node : Node) : Json :=
  match node.body with
  | .video body => Video.schema.write ⟨node.header, body⟩
  | .choice body => Choice.schema.write ⟨node.header, body⟩
  | .card body => Card.schema.write ⟨node.header, body⟩
  | .bgm body => Bgm.schema.write ⟨node.header, body⟩
  | .jump body => Jump.schema.write ⟨node.header, body⟩
  | .task body => Task.schema.write ⟨node.header, body⟩
  | .tip body => Tip.schema.write ⟨node.header, body⟩

def brief (node : Node) : Json :=
  match node.body with
  | .video body => Video.schema.brief ⟨node.header, body⟩
  | .choice body => Choice.schema.brief ⟨node.header, body⟩
  | .card body => Card.schema.brief ⟨node.header, body⟩
  | .bgm body => Bgm.schema.brief ⟨node.header, body⟩
  | .jump body => Jump.schema.brief ⟨node.header, body⟩
  | .task body => Task.schema.brief ⟨node.header, body⟩
  | .tip body => Tip.schema.brief ⟨node.header, body⟩

def codec : Codec Node := ⟨read, write, brief⟩

end Node

end TaggedStory
