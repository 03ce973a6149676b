import SceneDescription.Fault
import SceneDescription.Parameter.ParameterList

/-!
# Render options

The global options of a scene.  An option directive declares one of them as a parameter;
`RenderSetting.ofParameter` checks its name and type.
-/

namespace SceneDescription

/-- The coordinate system in which a renderer computes. -/
inductive RenderSpace
  | cameraWorld
  | camera
  | world
  deriving DecidableEq

def RenderSpace.name : RenderSpace → String
  | cameraWorld => "cameraworld"
  | camera => "camera"
  | world => "world"

def RenderSpace.ofName? : String → Option RenderSpace
  | "cameraworld" => some .cameraWorld
  | "camera" => some .camera
  | "world" => some .world
  | _ => none

structure RenderOptions where
  disablePixelJitter : Bool := false
  disableTextureFiltering : Bool := false
  disableWavelengthJitter : Bool := false
  displacementEdgeScale : Float := 1.0
  mseReferenceImage : Option String := none
  mseReferenceOut : Option String := none
  renderSpace : RenderSpace := .cameraWorld
  seed : Int := 0
  forceDiffuse : Bool := false
  pixelStats : Bool := false
  wavefront : Bool := false

/-- A new value for one of the options. -/
inductive RenderSetting
  | disablePixelJitter (value : Bool)
  | disableTextureFiltering (value : Bool)
  | disableWavelengthJitter (value : Bool)
  | displacementEdgeScale (value : Float)
  | mseReferenceImage (value : String)
  | mseReferenceOut (value : String)
  | renderSpace (value : RenderSpace)
  | seed (value : Int)
  | forceDiffuse (value : Bool)
  | pixelStats (value : Bool)
  | wavefront (value : Bool)

def RenderOptions.set (options : RenderOptions) : RenderSetting → RenderOptions
  | .disablePixelJitter value => { options with disablePixelJitter := value }
  | .disableTextureFiltering value => { options with disableTextureFiltering := value }
  | .disableWavelengthJitter value => { options with disableWavelengthJitter := value }
  | .displacementEdgeScale value => { options with displacementEdgeScale := value }
  | .mseReferenceImage value => { options with mseReferenceImage := some value }
  | .mseReferenceOut value => { options with mseReferenceOut := some value }
  | .renderSpace value => { options with renderSpace := value }
  | .seed value => { options with seed := value }
  | .forceDiffuse value => { options with forceDiffuse := value }
  | .pixelStats value => { options with pixelStats := value }
  | .wavefront value => { options with wavefront := value }

/-- What the parameter of an option must be, and the setting that it makes. -/
inductive RenderField
  | flag (setting : Bool → RenderSetting)
  | real (setting : Float → RenderSetting)
  | integer (setting : Int → RenderSetting)
  | text (setting : String → RenderSetting)
  | space

def RenderField.type : RenderField → ParameterType
  | flag _ => .bool
  | real _ => .real .float
  | integer _ => .integer
  | text _ | space => .text .string

def RenderField.ofName? : String → Option RenderField
  | "disablepixeljitter" => some (.flag .disablePixelJitter)
  | "disabletexturefiltering" => some (.flag .disableTextureFiltering)
  | "disablewavelengthjitter" => some (.flag .disableWavelengthJitter)
  | "displacementedgescale" => some (.real .displacementEdgeScale)
  | "msereferenceimage" => some (.text .mseReferenceImage)
  | "msereferenceout" => some (.text .mseReferenceOut)
  | "rendercoordsys" => some .space
  | "seed" => some (.integer .seed)
  | "forcediffuse" => some (.flag .forceDiffuse)
  | "pixelstats" => some (.flag .pixelStats)
  | "wavefront" => some (.flag .wavefront)
  | _ => none

/-- The setting that a parameter makes; only its first component counts. -/
def RenderSetting.ofParameter (p : Parameter) : Except Fault RenderSetting :=
  match RenderField.ofName? p.name with
  | none => .error (.unknownOption p.name)
  | some field =>
    match field, p.value with
    | .flag setting, .flags (b :: _) => .ok (setting b)
    | .real setting, .reals .float (x :: _) => .ok (setting x)
    | .integer setting, .integers (i :: _) => .ok (setting i)
    | .text setting, .texts .string (s :: _) => .ok (setting s)
    | .space, .texts .string (s :: _) =>
      match RenderSpace.ofName? s with
      | some value => .ok (.renderSpace value)
      | none => .error (.unknownRenderSpace s)
    | field, value => .error (.optionType p.name field.type value.type)

end SceneDescription
