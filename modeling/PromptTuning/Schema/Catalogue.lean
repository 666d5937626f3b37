import PromptTuning.Schema.Composition

/-!
# Reference schemas

The schemas of common records: chats, embeddings, knowledge graphs, searches,
predictions and instruction sets. A recognizer is the schema it looks for: it
accepts every schema that contains it. Six recognizers look for the whole
reference schema, the others only for the presence of its field names.
-/

namespace PromptTuning
namespace Catalogue

/-- A schema of a title and fields. -/
def titled (title : String) (fields : List Field) : Schema :=
  ⟨some title, fields⟩

/-- The label of a prediction unless it has another. -/
def predictionLabel : String := "Prediction"

/-- The label of an instruction set unless it has another. -/
def instructionsLabel : String := "Instructions"

/-- A required field of a type and a description. -/
def described (name : String) (type : FieldType) (description : String) :
    Field :=
  (Field.mandatory name type).withDescription description

/-- A required map with values of any type. -/
def anyMap (name description : String) : Field :=
  described name (.map .any) description

/-- The embedding vector of a record. -/
def embeddingField : Field :=
  described "embedding" (.list .number) "The embedding vector"

/-- The label of an entity. -/
def entityLabel : Field :=
  described "label" .string "The entity label"

/-- A reward, null unless given. -/
def rewardField (description : String) : Field :=
  ((Field.voluntary "reward" (.optional .number)).withDefault
    .null).withDescription description

/-- A label that has a default. -/
def defaultedLabel (label : String) : Field :=
  (Field.voluntary "label" .string).withDefault (.string label)

def genericInputs : Schema :=
  titled "GenericInputs" [anyMap "inputs" "The inputs"]

def genericOutputs : Schema :=
  titled "GenericOutputs" [anyMap "outputs" "The outputs"]

def genericIO : Schema :=
  titled "GenericIO"
    [anyMap "inputs" "The inputs", anyMap "outputs" "The outputs"]

def genericResult : Schema :=
  titled "GenericResult" [described "result" (.list .any) "The result"]

def chatMessage : Schema :=
  titled "ChatMessage"
    [.mandatory "role" (.oneOfStrings ["system", "user", "assistant"]),
      .mandatory "content" .string]

def chatMessages : Schema :=
  titled "ChatMessages"
    [described "messages" (.list (.object chatMessage))
      "The list of chat messages"]

def embedding : Schema :=
  titled "Embedding" [embeddingField]

def embeddings : Schema :=
  titled "Embeddings"
    [described "embeddings" (.list (.list .number))
      "The list of embedding vectors"]

def entity : Schema :=
  titled "Entity" [entityLabel]

def embeddedEntity : Schema :=
  titled "EmbeddedEntity" [entityLabel, embeddingField]

def relation : Schema :=
  titled "Relation"
    [described "subj" (.object entity) "The subject entity",
      described "label" .string "The relation label",
      described "obj" (.object entity) "The object entity"]

/-- A required list of entities. -/
def entitiesField : Field :=
  described "entities" (.list (.object entity)) "The list of entities"

/-- A required list of relations. -/
def relationsField : Field :=
  described "relations" (.list (.object relation)) "The list of relations"

def entities : Schema :=
  titled "Entities" [entitiesField]

def relations : Schema :=
  titled "Relations" [relationsField]

def knowledgeGraph : Schema :=
  titled "KnowledgeGraph" [entitiesField, relationsField]

def prediction : Schema :=
  titled "Prediction"
    [defaultedLabel predictionLabel,
      anyMap "inputs" "The inputs",
      anyMap "outputs" "The outputs",
      rewardField "The prediction's reward"]

def instructions : Schema :=
  titled "Instructions"
    [defaultedLabel instructionsLabel,
      described "instructions" (.list .string) "The list of instructions",
      rewardField "The instruction's reward"]

def similaritySearch : Schema :=
  titled "SimilaritySearch"
    [described "entity_label" .string
        "The label of the entity to look for (use `*` to match them all)",
      described "similarity_search" .string
        "The natural language similarity query to match specific entities"]

def tripletSearch : Schema :=
  titled "TripletSearch"
    [described "subject_label" .string
        "The label of the subject entity (use `*` to match them all)",
      described "subject_similarity_search" .string
        "The natural language similarity query to match specific subject entities",
      described "relation_label" .string
        "The label of the relation to search for",
      described "object_label" .string
        "The label of the object entity (use `*` to match them all)",
      described "object_similarity_search" .string
        "The natural language similarity query to match specific object entities"]

/-- The reference schemas under their names. -/
def references : List (String × Schema) :=
  [("generic_inputs", genericInputs),
    ("generic_outputs", genericOutputs),
    ("generic_io", genericIO),
    ("generic_result", genericResult),
    ("chat_message", chatMessage),
    ("chat_messages", chatMessages),
    ("embedding", embedding),
    ("embeddings", embeddings),
    ("entity", entity),
    ("embedded_entity", embeddedEntity),
    ("relation", relation),
    ("entities", entities),
    ("relations", relations),
    ("knowledge_graph", knowledgeGraph),
    ("prediction", prediction),
    ("instructions", instructions),
    ("similarity_search", similaritySearch),
    ("triplet_search", tripletSearch)]

/-- A schema that asks only for the presence of names. -/
def presence (names : List String) : Schema :=
  titled "Presence" (names.map fun name => .voluntary name .any)

/-- The recognizers: names and the schemas they look for. -/
def recognizers : List (String × Schema) :=
  [("chat_message", chatMessage),
    ("chat_messages", chatMessages),
    ("embedding", embedding),
    ("embeddings", embeddings),
    ("prediction", prediction),
    ("instructions", instructions),
    ("entity", presence ["label"]),
    ("embedded_entity", presence ["label", "embedding"]),
    ("relation", presence ["subj", "label", "obj"]),
    ("entities", presence ["entities"]),
    ("relations", presence ["relations"]),
    ("knowledge_graph", presence ["entities", "relations"]),
    ("similarity_search", presence ["entity_label", "similarity_search"]),
    ("triplet_search",
      presence
        ["subject_label", "subject_similarity_search", "relation_label",
          "object_label", "object_similarity_search"])]

/-- For each recognizer, its name and whether it accepts a schema. -/
def recognitions (schema : Schema) : List (String × Bool) :=
  recognizers.map fun (name, reference) => (name, schema.contains reference)

end Catalogue

namespace Field

/-- A summary of a field; what is absent is left out. -/
def summary (field : Field) : Json :=
  let given :=
    [("name", Json.string field.name),
      ("type", .string field.type.describe),
      ("required", .boolean field.required)]
  let optional :=
    field.default.toList.map (fun value => ("default", value)) ++
      field.description.toList.map fun text => ("description", .string text)
  .object (given ++ optional)

end Field

namespace Schema

/-- Summaries of the fields of a schema. -/
def fieldSummaries (schema : Schema) : Json :=
  .array (schema.fields.map Field.summary)

/-- For each recognizer whether it accepts a schema. -/
def recognitionSummary (schema : Schema) : Json :=
  .object
    ((Catalogue.recognitions schema).map fun (name, accepted) =>
      (name, .boolean accepted))

end Schema

end PromptTuning
