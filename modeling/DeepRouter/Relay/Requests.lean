import DeepRouter.Library.GoStrings
import DeepRouter.Library.Json

/-! # Request shapes

The fields that the relay only passes on are kept together as `rest`. -/

namespace DeepRouter.Relay

open GoStrings

def stringContent : Json → String
  | .str text => text
  | .arr parts => parts.foldl (fun text part =>
      if part.stringField "type" = some "text" then text ++ (part.stringField "text").getD ""
      else text) ""
  | _ => ""

structure Message where
  role : String
  content : Json := .null
  rest : List (String × Json) := []

def Message.stringContent (message : Message) : String := Relay.stringContent message.content

def Message.setStringContent (text : String) (message : Message) : Message :=
  { message with content := .str text }

structure StreamOptions where
  (includeUsage includeObfuscation : Bool := false)

structure DeepRouterExtension where
  (skillID skillVersionID entryPoint : String := "")

structure GeneralOpenAIRequest where
  model : String
  messages : List Message := []
  (prompt input : Json := .null)
  instruction : String := ""
  stream : Option Bool := none
  streamOptions : Option StreamOptions := none
  (maxTokens maxCompletionTokens : Option Nat := none)
  (user safetyIdentifier store metadata : Option Json := none)
  deeprouter : Option DeepRouterExtension := none
  rest : List (String × Json) := []

def GeneralOpenAIRequest.getSystemRoleName (request : GeneralOpenAIRequest) : String :=
  if hasPrefix request.model "o" then
    if !hasPrefix request.model "o1-mini" && !hasPrefix request.model "o1-preview" then "developer"
    else "system"
  else if hasPrefix request.model "gpt-5" then "developer"
  else "system"

def GeneralOpenAIRequest.setModelName (modelName : String) (request : GeneralOpenAIRequest) :
    GeneralOpenAIRequest :=
  if modelName ≠ "" then { request with model := modelName } else request

structure ClaudeMessage where
  role : String
  content : Json := .null

def ClaudeMessage.getStringContent (message : ClaudeMessage) : String :=
  Relay.stringContent message.content

structure Thinking where
  type : String
  budgetTokens : Option Int := none
  display : String := ""

structure ClaudeRequest where
  model : String
  prompt : String := ""
  system : Json := .null
  messages : List ClaudeMessage := []
  (maxTokens maxTokensToSample : Option Nat := none)
  (temperature topP : Option Rat := none)
  topK : Option Int := none
  thinking : Option Thinking := none
  (outputConfig metadata : Option Json := none)
  rest : List (String × Json) := []

def ClaudeRequest.setModelName (modelName : String) (request : ClaudeRequest) : ClaudeRequest :=
  if modelName ≠ "" then { request with model := modelName } else request

structure OpenAIResponsesRequest where
  model : String
  (input instructions : Option Json := none)
  maxOutputTokens : Option Nat := none
  (user safetyIdentifier store metadata : Option Json := none)
  rest : List (String × Json) := []

structure MediaInput where
  type : String
  (text fileUrl imageUrl : String := "")

def mediaUrl : Option Json → String
  | some (.str url) => url
  | some value => (value.stringField "url").getD ""
  | none => ""

def parseInputPart (part : Json) : Option MediaInput :=
  match part.stringField "type" with
  | some "input_text" => some { type := "input_text", text := (part.stringField "text").getD "" }
  | some "input_image" =>
    some { type := "input_image", imageUrl := mediaUrl (part.field "image_url") }
  | some "input_file" => some { type := "input_file", fileUrl := mediaUrl (part.field "file_url") }
  | _ => none

def parseInputContent : Option Json → List MediaInput
  | some (.str text) => [{ type := "input_text", text }]
  | some (.arr parts) => parts.filterMap parseInputPart
  | _ => []

def OpenAIResponsesRequest.parseInput (request : OpenAIResponsesRequest) : List MediaInput :=
  match request.input with
  | some (.str text) => [{ type := "input_text", text }]
  | some (.arr items) => items.flatMap fun item => parseInputContent (item.field "content")
  | _ => []

structure GeminiPart where
  text : String := ""
  rest : List (String × Json) := []

structure GeminiChatContent where
  role : String := ""
  parts : List GeminiPart := []

structure GeminiChatRequest where
  contents : List GeminiChatContent := []
  maxOutputTokens : Option Nat := none
  systemInstructions : Option GeminiChatContent := none
  rest : List (String × Json) := []

end DeepRouter.Relay
