import ApiStencil.OpenApi.Shape
/-!
What is asked of each kind of objects in a document.
-/
set_option autoImplicit false

namespace ApiStencil.OpenApi

namespace Shape

def texts : Shape := .list .text

def refTo (p : Part) : Shape := .orReference (.part p)

def mapOf (p : Part) : Shape := .map (refTo p)

def content : Shape := .map (.part .mediaType)

/-- Path items by the expressions they are called under. -/
def callback : Shape := .map (.part .pathItem)

/-- Names of security schemes with what each of them asks for. -/
def security : Shape := .list (.map texts)

def schema : Shape := refTo .schema

def queryStyle : Shape := .word ["form", "spaceDelimited", "pipeDelimited", "deepObject"]

end Shape

namespace Part
open Shape

def described (fields : List Field) : List Field := optional "description" .text :: fields

/-- A status code, or one digit for a whole class of them. -/
def isStatus (name : String) : Bool :=
  match name.toList with
  | [a, b, c] =>
    ('1' ≤ a && a ≤ '9' && b.isDigit && c.isDigit) ||
      (a.isDigit && (b == 'x' || b == 'X') && (c == 'x' || c == 'X'))
  | _ => false

def isPath (name : String) : Bool := name.startsWith "/"

/-- A parameter says what its values look like by a schema or by a content. -/
def format : Others := .oneOf "ParameterSchemaOrContent" [("schema", Shape.schema), ("content", content)]

def samples : List Field := [optional "example" .any, defaulted "examples" (mapOf .sample)]

/-- What all parameters have. -/
def parameterData : Layer :=
  ⟨described (required "name" .text :: defaulted "required" .flag :: optional "deprecated" .flag ::
    optional "explode" .flag :: samples), format⟩

def parameterIn (fields : List Field) : List Layer := [⟨fields, .free⟩, parameterData]

def parameters : List (String × List Layer) :=
  [("query", parameterIn [defaulted "allowReserved" .flag, defaulted "style" queryStyle,
      optional "allowEmptyValue" .flag]),
    ("header", parameterIn [defaulted "style" (.word ["simple"])]),
    ("path", parameterIn [defaulted "style" (.word ["matrix", "label", "simple"])]),
    ("cookie", parameterIn [defaulted "style" (.word ["form"])])]

def methods : List String := ["get", "put", "post", "delete", "options", "head", "patch", "trace"]

def layer (fields : List Field) : List Layer := [⟨fields, .free⟩]

def schemes : List (String × List Layer) :=
  [("apiKey", layer (described [required "in" (.word ["query", "header", "cookie"]), required "name" .text])),
    ("http", layer (described [required "scheme" .text, optional "bearerFormat" .text])),
    ("oauth2", layer (described [required "flows" (.part .flows)])),
    ("openIdConnect", layer (described [required "openIdConnectUrl" .text]))]

/-- What holds of a schema whatever values it allows. -/
def schemaData : List Field :=
  described [defaulted "nullable" .flag, defaulted "readOnly" .flag, defaulted "writeOnly" .flag,
    defaulted "deprecated" .flag, optional "externalDocs" (.part .externalDocs), optional "example" .any,
    optional "title" .text, optional "discriminator" (.part .discriminator), optional "default" .any]

/-- What a schema says of the values it allows. -/
def schemaKind : List Field :=
  [optional "type" .text, optional "pattern" .text, optional "multipleOf" .real,
    optional "exclusiveMinimum" .flag, optional "exclusiveMaximum" .flag, optional "minimum" .real,
    optional "maximum" .real, defaulted "properties" (.map Shape.schema), defaulted "required" texts,
    optional "additionalProperties" (.flagOr "AdditionalProperties" Shape.schema),
    optional "minProperties" .size, optional "maxProperties" .size, optional "items" Shape.schema,
    optional "minItems" .size, optional "maxItems" .size, optional "uniqueItems" .flag,
    defaulted "enum" (.list .any), optional "format" .text, optional "minLength" .size,
    optional "maxLength" .size, defaulted "oneOf" (.list Shape.schema), defaulted "allOf" (.list Shape.schema),
    defaulted "anyOf" (.list Shape.schema), optional "not" Shape.schema]

def flow (fields : List Field) : List Layer :=
  layer (fields ++ [optional "refreshUrl" .text, defaulted "scopes" (.map .text)])

def form : Part → Form
  | document => .record "OpenAPI" (layer
      [required "openapi" .text, required "info" (.part info), defaulted "servers" (.list (.part server)),
        required "paths" (.part paths), optional "components" (.part components), optional "security" security,
        defaulted "tags" (.list (.part tag)), optional "externalDocs" (.part externalDocs)])
  | info => .record "Info" (layer (described
      [required "title" .text, optional "termsOfService" .text, optional "contact" (.part contact),
        optional "license" (.part license), required "version" .text]))
  | contact => .record "Contact" (layer [optional "name" .text, optional "url" .text, optional "email" .text])
  | license => .record "License" (layer [required "name" .text, optional "url" .text])
  | server => .record "Server" (layer (described
      [required "url" .text, optional "variables" (.map (.part serverVariable))]))
  | serverVariable => .record "ServerVariable" (layer (described
      [defaulted "enum" texts, required "default" .text]))
  | paths => .record "Paths" [⟨[], .keyed isPath (refTo pathItem)⟩]
  | pathItem => .record "PathItem" (layer (described
      ([optional "summary" .text, defaulted "servers" (.list (.part server)),
        defaulted "parameters" (.list (refTo parameter))] ++
        methods.map fun m => optional m (.part operation))))
  | operation => .record "Operation" (layer (described
      [defaulted "tags" texts, optional "summary" .text, optional "externalDocs" (.part externalDocs),
        optional "operationId" .text, defaulted "parameters" (.list (refTo parameter)),
        optional "requestBody" (refTo requestBody), required "responses" (.part responses),
        defaulted "callbacks" (.map callback), defaulted "deprecated" .flag, optional "security" security,
        defaulted "servers" (.list (.part server))]))
  | parameter => .tagged "Parameter" "in" parameters
  | requestBody => .record "RequestBody" (layer (described
      [defaulted "content" content, defaulted "required" .flag]))
  | responses => .record "Responses" [⟨[optional "default" (refTo response)], .keyed isStatus (refTo response)⟩]
  | response => .record "Response" (layer
      [required "description" .text, defaulted "headers" (mapOf header), defaulted "content" content,
        defaulted "links" (mapOf link)])
  | mediaType => .record "MediaType" (layer
      (optional "schema" Shape.schema :: defaulted "encoding" (.map (.part encoding)) :: samples))
  | encoding => .record "Encoding" (layer
      [optional "contentType" .text, defaulted "headers" (mapOf header), optional "style" queryStyle,
        defaulted "explode" .flag, defaulted "allowReserved" .flag])
  | header => .record "Header"
      [⟨described (defaulted "style" (.word ["simple"]) :: defaulted "required" .flag ::
        optional "deprecated" .flag :: samples), format⟩]
  | sample => .record "Example" (layer (described
      [optional "summary" .text, optional "value" .any, optional "externalValue" .text]))
  | link => .record "Link"
      [⟨described [optional "requestBody" .any, defaulted "parameters" (.map .any), optional "server" (.part server)],
        .oneOf "LinkOperation" [("operationId", .text), ("operationRef", .text)]⟩]
  | components => .record "Components" (layer
      [defaulted "securitySchemes" (mapOf securityScheme), defaulted "responses" (mapOf response),
        defaulted "parameters" (mapOf parameter), defaulted "examples" (mapOf sample),
        defaulted "requestBodies" (mapOf requestBody), defaulted "headers" (mapOf header),
        defaulted "schemas" (mapOf schema), defaulted "links" (mapOf link),
        defaulted "callbacks" (.map (.orReference callback))])
  | securityScheme => .tagged "SecurityScheme" "type" schemes
  | flows => .record "OAuth2Flows" (layer
      [optional "implicit" (.part implicitFlow), optional "password" (.part (tokenFlow "PasswordOAuth2Flow")),
        optional "clientCredentials" (.part (tokenFlow "ClientCredentialsOAuth2Flow")),
        optional "authorizationCode" (.part codeFlow)])
  | implicitFlow => .record "ImplicitOAuth2Flow" (flow [required "authorizationUrl" .text])
  | tokenFlow name => .record name (flow [required "tokenUrl" .text])
  | codeFlow => .record "AuthorizationCodeOAuth2Flow" (flow
      [required "authorizationUrl" .text, required "tokenUrl" .text])
  | schema => .record "Schema" [⟨schemaData, .free⟩, ⟨schemaKind, .free⟩]
  | discriminator => .record "Discriminator" (layer
      [required "propertyName" .text, defaulted "mapping" (.map .text)])
  | tag => .record "Tag" (layer (described
      [required "name" .text, optional "externalDocs" (.part externalDocs)]))
  | externalDocs => .record "ExternalDocumentation" (layer (described [required "url" .text]))

end Part
end ApiStencil.OpenApi
