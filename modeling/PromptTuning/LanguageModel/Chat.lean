import PromptTuning.Json.Reader
import PromptTuning.Prompt.Basic

/-!
# Chat completions

A served model is asked by posting the two messages of a prompt to its address.
Its reply holds a text, and the text holds the answer: the outermost braces and
all between them, since models like to wrap an answer in prose. How a post
reaches a server is left open. A status code without success is told with its
standard phrase.
-/

namespace PromptTuning

namespace StatusText

/-- Status codes and their phrases. -/
def phrases : List (Nat × String) :=
  [(100, "Continue"), (101, "Switching Protocols"), (102, "Processing"),
    (103, "Early Hints"), (200, "OK"), (201, "Created"), (202, "Accepted"),
    (203, "Non Authoritative Information"), (204, "No Content"),
    (205, "Reset Content"), (206, "Partial Content"), (207, "Multi-Status"),
    (208, "Already Reported"), (226, "IM Used"), (300, "Multiple Choices"),
    (301, "Moved Permanently"), (302, "Found"), (303, "See Other"),
    (304, "Not Modified"), (305, "Use Proxy"), (307, "Temporary Redirect"),
    (308, "Permanent Redirect"), (400, "Bad Request"), (401, "Unauthorized"),
    (402, "Payment Required"), (403, "Forbidden"), (404, "Not Found"),
    (405, "Method Not Allowed"), (406, "Not Acceptable"),
    (407, "Proxy Authentication Required"), (408, "Request Timeout"),
    (409, "Conflict"), (410, "Gone"), (411, "Length Required"),
    (412, "Precondition Failed"), (413, "Payload Too Large"),
    (414, "URI Too Long"), (415, "Unsupported Media Type"),
    (416, "Range Not Satisfiable"), (417, "Expectation Failed"),
    (418, "I'm a teapot"), (421, "Misdirected Request"),
    (422, "Unprocessable Entity"), (423, "Locked"), (424, "Failed Dependency"),
    (425, "Too Early"), (426, "Upgrade Required"),
    (428, "Precondition Required"), (429, "Too Many Requests"),
    (431, "Request Header Fields Too Large"),
    (451, "Unavailable For Legal Reasons"), (500, "Internal Server Error"),
    (501, "Not Implemented"), (502, "Bad Gateway"),
    (503, "Service Unavailable"), (504, "Gateway Timeout"),
    (505, "HTTP Version Not Supported"), (506, "Variant Also Negotiates"),
    (507, "Insufficient Storage"), (508, "Loop Detected"),
    (510, "Not Extended"), (511, "Network Authentication Required")]

/-- A status code with its phrase. -/
def render (status : Nat) : String :=
  toString status ++ " " ++ (phrases.lookup status).getD "<unknown status code>"

/-- Whether a status code tells of success. -/
def isSuccess (status : Nat) : Bool :=
  200 ≤ status && status < 300

end StatusText

/-- What is posted to a chat completion server. -/
structure ChatPost where
  authorization : Option String
  body : String

/-- What a chat completion server replies. -/
structure ChatReply where
  status : Nat
  body : String

/-- How posts reach a server; there is no reply where they do not. -/
abbrev Transport := ChatPost -> Option ChatReply

/-- The outermost braces of a text and all between them. -/
def extractObject? (text : String) : Option String :=
  let started := text.toList.dropWhile (· != '{')
  let enclosed := (started.reverse.dropWhile (· != '}')).reverse
  if enclosed.isEmpty then none else some (String.ofList enclosed)

/-- The value that a model's text stands for under a schema. -/
def Schema.readAnswer (schema : Schema) (text : String) :
    Except LanguageModelError Value :=
  match extractObject? text with
  | none => .error (.malformed "output did not contain a JSON object")
  | some document =>
      match Json.read? document with
      | none => .error (.malformed "invalid JSON: ")
      | some data =>
          (Value.construct schema data).mapError fun violations =>
            .malformed (ValueError.validationMessage violations)

namespace ChatReply

/-- The texts of the choices of a reply. -/
def decodeChoices : Decoder (List String) := fun value => do
  let content : Decoder String := fun value => do
    let members ← Decoder.record "struct ChatMessageResponse"
      [.required "content" Decoder.string] value
    Decoder.required members "content" Decoder.string
  let message : Decoder String := fun value => do
    let members ←
      Decoder.record "struct ChatChoice" [.required "message" content] value
    Decoder.required members "message" content
  let members ← Decoder.record "struct ChatResponse"
    [.required "choices" (Decoder.list message)] value
  Decoder.required members "choices" (Decoder.list message)

/-- The text of the first choice of a reply. -/
def text (reply : ChatReply) : Except LanguageModelError String :=
  if StatusText.isSuccess reply.status then
    match (Json.read? reply.body).map decodeChoices with
    | none => .error (.serialization "the reply is not a JSON document")
    | some (.error reason) => .error (.serialization reason.message)
    | some (.ok []) => .error (.response "Missing choices")
    | some (.ok (text :: _)) => .ok text
  else
    .error
      (.response
        ("HTTP " ++ StatusText.render reply.status ++ ": " ++ reply.body))

end ChatReply

namespace ServedModel

/-- The text of a temperature in a post. -/
def temperatureText : Single -> String
  | .finite value => DecimalLayout.document.renderFinite value
  | _ => "null"

/-- The body of a post. -/
def postBody (model : ServedModel) (prompt : Prompt) : String :=
  let message (role content : String) : Json :=
    .object [("role", .string role), ("content", .string content)]
  let parts :=
    [("model", quoted model.model),
      ("messages",
        (Json.array
          [message "system" prompt.system,
            message "user" prompt.user]).compact),
      ("temperature", temperatureText model.temperature)] ++
    (model.maxTokens.map fun count =>
      ("max_tokens", toString count.toNat)).toList ++
    [("response_format",
      (Json.object [("type", .string "json_object")]).compact)]
  "\x7b" ++
    ",".intercalate
      (parts.map fun (name, text) => quoted name ++ ":" ++ text) ++ "\x7d"

/-- Whether a text may stand in a header: of the control characters,
only tabs may. -/
def isHeaderText (text : String) : Bool :=
  text.toList.all fun character =>
    character == '\t' || (32 ≤ character.toNat && character.toNat != 127)

/-- The header that carries a key. -/
def authorization (model : ServedModel) :
    Except LanguageModelError (Option String) :=
  match model.apiKey with
  | none => .ok none
  | some key =>
      let header := "Bearer " ++ key
      if isHeaderText header then .ok (some header)
      else .error (.http "failed to parse header value")

/-- The post that asks a model for a value. -/
def post (model : ServedModel) (request : GenerationRequest) :
    Except LanguageModelError ChatPost := do
  let prompt ← request.prompt
  return ⟨← model.authorization, model.postBody prompt⟩

/-- Ask a model for a value. -/
def generate (transport : Transport) (model : ServedModel)
    (request : GenerationRequest) :
    Except LanguageModelError Value := do
  match transport (← model.post request) with
  | none => .error (.http "the server cannot be reached")
  | some reply => request.outputSchema.readAnswer (← reply.text)

end ServedModel
end PromptTuning
