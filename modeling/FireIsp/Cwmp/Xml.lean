import FireIsp.Base.Markup
import FireIsp.Base.Text

/-!
# Reading CWMP envelopes

The hand-rolled reader of SOAP envelopes: tags are found by backtracking patterns, what stands
between them is trimmed, and nothing is decoded.
-/

namespace FireIsp.Cwmp

open Regex Markup

/-- A string. -/
abbrev Text := List Char

/-- A string without the white space around it. -/
def trim (text : Text) : Text :=
  ((text.dropWhile Text.isSpace).reverse.dropWhile Text.isSpace).reverse

/-- A character, in either case. -/
def letter (c : Char) : Item Char := .one fun d => decide (d.toLower = c.toLower)

/-- A word, in either case. -/
def word (text : String) : List (Item Char) := text.toList.map letter

/-- Anything within a tag. -/
def within : Item Char := .many fun c => decide (c ≠ '>')

/-- The delimiters of tags. -/
def angle : Delimiters Char := ⟨'<', '>', by decide⟩

/-- `<[^>]*:tag[^>]*>([\s\S]*?)<\/[^>]*:tag>` -/
def prefixed (tag : String) : Element Char :=
  ⟨within :: letter ':' :: word tag ++ [within], letter '/' :: within :: letter ':' :: word tag⟩

/-- `<tag[^>]*>([\s\S]*?)<\/tag>` -/
def bare (tag : String) : Element Char := ⟨word tag ++ [within], letter '/' :: word tag⟩

/-- `<[^>]*:?tag[^>]*>([\s\S]*?)<\/[^>]*:?tag>` -/
def either (tag : String) : Element Char :=
  ⟨within :: .optional (fun c => decide (c = ':')) :: word tag ++ [within],
    letter '/' :: within :: .optional (fun c => decide (c = ':')) :: word tag⟩

/-- `^<!\[CDATA\[([\s\S]*?)\]\]>$` -/
def cdata : Pattern Char :=
  ⟨"<![CDATA[".toList.map exactly, "]]>".toList.map exactly ++ [.finish]⟩

/-- What a CDATA section holds. -/
def stripCdata (text : Text) : Text := ((cdata.exec text).map Prod.fst).getD text

/-- What stands in the first element of a name, first with a prefix and then without one. -/
def extractTag (xml : Text) (tag : String) : Option Text :=
  (((prefixed tag).pattern angle).search xml <|> ((bare tag).pattern angle).search xml).map
    fun found => stripCdata (trim found.1)

/-- What stands in all elements of a name. -/
def extractAllTags (xml : Text) (tag : String) : List Text :=
  (((either tag).pattern angle).searchAll xml.length xml).map trim

/-- A value that is there and not empty, or another one. -/
def orElse (found : Option Text) (other : Text) : Text :=
  match found with
  | none | some [] => other
  | some text => text

/-- The id in the header, or one made from the clock. -/
def extractMessageId (now : Nat) (xml : Text) : Text :=
  orElse (extractTag xml "ID") ("ID-".toList ++ Nat.toDigits 10 now)

/-- A string occurs in another one. -/
def includes (xml : Text) (text : String) : Bool := xml.tails.any text.toList.isPrefixOf

/-- The message types told apart. -/
inductive MessageType
  | diagnosticsComplete
  | inform
  | getParameterValuesResponse
  | setParameterValuesResponse
  | getParameterNamesResponse
  | downloadResponse
  | transferCompleteResponse
  | fault
  | unknown
deriving DecidableEq

/-- The types that are looked for, in order. -/
def types : List (String × MessageType) :=
  [("Inform", .inform), ("GetParameterValuesResponse", .getParameterValuesResponse),
    ("SetParameterValuesResponse", .setParameterValuesResponse),
    ("GetParameterNamesResponse", .getParameterNamesResponse),
    ("DownloadResponse", .downloadResponse), ("TransferCompleteResponse", .transferCompleteResponse),
    ("Fault", .fault)]

/-- `<[^>]*:?type[\s>]` -/
def mentions (xml : Text) (type : String) : Bool :=
  let items := exactly '<' :: within :: .optional (fun c => decide (c = ':')) ::
    word type ++ [.one fun c => Text.isSpace c || decide (c = '>')]
  (leftmost (run items fun _ => some ()) xml).isSome

def detectMessageType (xml : Text) : MessageType :=
  if includes xml "8 DIAGNOSTICS COMPLETE" || includes xml "DiagnosticsComplete" then
    .diagnosticsComplete
  else
    ((types.find? fun type => mentions xml type.1 || includes xml ("<" ++ type.1)).map
      Prod.snd).getD .unknown

def parseParameters (xml : Text) : List (Text × Text) :=
  (extractAllTags xml "ParameterValueStruct").map fun block =>
    (orElse (extractTag block "Name") [], orElse (extractTag block "Value") [])

/-- The identity a device claims. -/
structure DeviceId where
  manufacturer : Text
  oui : Text
  productClass : Text
  serialNumber : Text
  hwVersion : Text
  swVersion : Text

/-- A message of a device that reports. -/
structure InformPayload where
  deviceId : DeviceId
  parameters : List (Text × Text)

/-- What a device reports. -/
def parseInform (xml : Text) : InformPayload :=
  let devIdBlock := orElse (extractTag xml "DeviceId") []
  let field tag := orElse (extractTag devIdBlock tag) (orElse (extractTag xml tag) [])
  ⟨⟨field "Manufacturer", field "OUI", field "ProductClass", field "SerialNumber",
    orElse (extractTag xml "HardwareVersion") [], orElse (extractTag xml "SoftwareVersion") []⟩,
    parseParameters xml⟩

/-- The values that were read. -/
def parseGetParameterValuesResponse (xml : Text) : List (Text × Text) := parseParameters xml

/-- `<detail>([\s\S]*?)<\/detail>` -/
def detail : Element Char := ⟨word "detail", letter '/' :: word "detail"⟩

def parseFault (xml : Text) : Text × Text :=
  let inner := (((detail.pattern angle).search xml).map Prod.fst).getD xml
  (orElse (extractTag inner "FaultCode") [], orElse (extractTag inner "FaultString") [])

end FireIsp.Cwmp

/-!
## Reading a CWMP message

The type of a message, its id, and what the reader of its type takes from it.
-/

namespace FireIsp.Cwmp

def parseEvents (xml : Text) : List (Text × Text) :=
  (extractAllTags xml "EventStruct").map fun block =>
    (orElse (extractTag block "EventCode") [], orElse (extractTag block "CommandKey") [])

def parseSetParameterValuesResponse (xml : Text) : Int :=
  (Numeral.parseInt 10 (orElse (extractTag xml "Status") ['0'])).getD 0

/-- The names that were read, and whether they can be written. -/
def parseGetParameterNamesResponse (xml : Text) : List (Text × Bool) :=
  (extractAllTags xml "ParameterInfoStruct").map fun block =>
    (orElse (extractTag block "Name") [],
      extractTag block "Writable" = some ['1'] || extractTag block "Writable" = some "true".toList)

/-- What is taken from a message. -/
inductive Payload
  | inform (events : List (Text × Text)) (inform : InformPayload)
  | values (parameterList : List (Text × Text))
  | status (status : Int)
  | names (parameterList : List (Text × Bool))
  | fault (faultCode faultString : Text)
  | empty

/-- A message that was read. -/
structure Message where
  messageType : MessageType
  id : Text
  payload : Payload

def parsePayload (xml : Text) : MessageType → Payload
  | .inform | .diagnosticsComplete => .inform (parseEvents xml) (parseInform xml)
  | .getParameterValuesResponse => .values (parseGetParameterValuesResponse xml)
  | .setParameterValuesResponse => .status (parseSetParameterValuesResponse xml)
  | .getParameterNamesResponse => .names (parseGetParameterNamesResponse xml)
  | .fault => .fault (parseFault xml).1 (parseFault xml).2
  | _ => .empty

/-- A message is read. -/
def parseCwmpEnvelope (now : Nat) (xml : Text) : Message where
  messageType := detectMessageType xml
  id := extractMessageId now xml
  payload := parsePayload xml (detectMessageType xml)

end FireIsp.Cwmp

/-!
## Writing CWMP envelopes

The requests sent to devices.  Whatever comes from a task is escaped.
-/

namespace FireIsp.Cwmp

def replaceAll (c : Char) (replacement : String) (text : Text) : Text :=
  text.flatMap fun d => if d = c then replacement.toList else [d]

/-- The five characters of markup are escaped. -/
def xmlEscape (text : Text) : Text :=
  replaceAll '\'' "&apos;" (replaceAll '"' "&quot;" (replaceAll '>' "&gt;"
    (replaceAll '<' "&lt;" (replaceAll '&' "&amp;" text))))

/-- The first lines of an envelope. -/
def SOAP_HEADER : String :=
  "<?xml version=\"1.0\" encoding=\"UTF-8\"?>
<soapenv:Envelope xmlns:soapenv=\"http://schemas.xmlsoap.org/soap/envelope/\"
                  xmlns:cwmp=\"urn:dslforum-org:cwmp-1-0\"
                  xmlns:xsd=\"http://www.w3.org/2001/XMLSchema\"
                  xmlns:xsi=\"http://www.w3.org/2001/XMLSchema-instance\">"

def wrapEnvelope (messageId bodyContent : Text) : Text :=
  SOAP_HEADER.toList ++ "\n  <soapenv:Header>\n    <cwmp:ID soapenv:mustUnderstand=\"1\">".toList ++
    xmlEscape messageId ++ "</cwmp:ID>\n  </soapenv:Header>\n  <soapenv:Body>\n    ".toList ++
    bodyContent ++ "\n  </soapenv:Body>\n</soapenv:Envelope>".toList

/-- A parameter to be set. -/
structure ParameterValue where
  name : Text
  value : Text
  type : Option Text

/-- Lines, one below the other. -/
def joinLines : List Text → Text
  | [] => []
  | [line] => line
  | line :: lines => line ++ '\n' :: joinLines lines

def parameterItem (p : ParameterValue) : Text :=
  "      <ParameterValueStruct>\n        <Name>".toList ++ xmlEscape p.name ++
    "</Name>\n        <Value xsi:type=\"".toList ++
    xmlEscape (orElse p.type "xsd:string".toList) ++ "\">".toList ++ xmlEscape p.value ++
    "</Value>\n      </ParameterValueStruct>".toList

def buildSetParameterValues (messageId : Text) (parameterValueList : List ParameterValue) : Text :=
  let items := joinLines (parameterValueList.map parameterItem)
  let count := Nat.toDigits 10 parameterValueList.length
  wrapEnvelope messageId
    ("<cwmp:SetParameterValues>
      <ParameterList soapenv:arrayType=\"cwmp:ParameterValueStruct[".toList ++ count ++
      "]\">\n".toList ++ items ++ "
      </ParameterList>
      <ParameterKey></ParameterKey>
    </cwmp:SetParameterValues>".toList)

end FireIsp.Cwmp
