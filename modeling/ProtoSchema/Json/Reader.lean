import ProtoSchema.Json.Token

set_option autoImplicit false

namespace ProtoSchema.Json

-- An open container. Elements are kept latest first; a member under way has its name already.
inductive Frame where
  | array (latestFirst : List Json)
  | object (members : List (String × Json)) (key : String)

inductive Reading where
  | value (outer : List Frame)
  | elementOrClose (outer : List Frame)
  | nameOrClose (outer : List Frame)
  | name (members : List (String × Json)) (outer : List Frame)
  | colon (members : List (String × Json)) (key : String) (outer : List Frame)
  | ended (value : Json) (outer : List Frame)

namespace Reading

def startValue (limit : Nat) (outer : List Frame) : Token → Except Fault Reading
  | .scalar v => .ok (.ended v outer)
  | .text s => .ok (.ended (.string s) outer)
  | .openBracket =>
    if outer.length < limit then .ok (.elementOrClose outer) else .error .malformed
  | .openBrace => if outer.length < limit then .ok (.nameOrClose outer) else .error .malformed
  | .brokenScalar fault | .brokenText fault => .error fault
  | _ => .error .malformed

def startName (members : List (String × Json)) (outer : List Frame) : Token → Except Fault Reading
  | .text key => .ok (.colon members key outer)
  | .brokenText fault => .error fault
  | _ => .error .malformed

def afterValue (v : Json) (outer : List Frame) (frame : Frame) (token : Token) :
    Except Fault Reading :=
  match frame, token with
  | .array earlier, .comma => .ok (.value (.array (v :: earlier) :: outer))
  | .array earlier, .closeBracket => .ok (.ended (.array (v :: earlier).reverse) outer)
  | .object members key, .comma => .ok (.name (setMember key v members) outer)
  | .object members key, .closeBrace => .ok (.ended (.object (setMember key v members)) outer)
  | _, _ => .error .malformed

def step (limit : Nat) : Reading → Token → Except Fault Reading
  | .value outer, token => startValue limit outer token
  | .elementOrClose outer, .closeBracket => .ok (.ended (.array []) outer)
  | .elementOrClose outer, token => startValue limit (.array [] :: outer) token
  | .nameOrClose outer, .closeBrace => .ok (.ended (.object []) outer)
  | .nameOrClose outer, token => startName [] outer token
  | .name members outer, token => startName members outer token
  | .colon members key outer, .colon => .ok (.value (.object members key :: outer))
  | .colon _ _ _, _ => .error .malformed
  | .ended v (frame :: outer), token => afterValue v outer frame token
  | .ended _ [], _ => .error .malformed

def result : Reading → Except Fault Json
  | .ended v [] => .ok v
  | _ => .error .unfinished

end Reading

def nestingLimit : Nat := 127

def readTokens (limit : Nat) (state : Reading) (tokens : List Token) : Except Fault Json :=
  match tokens with
  | [] => state.result
  | token :: rest =>
    match state.step limit token with
    | .ok next => readTokens limit next rest
    | .error fault => .error fault

def readWithin (limit : Nat) (text : String) : Except Fault Json :=
  readTokens limit (.value []) (Token.ofText text.toList)

def read (text : String) : Except Fault Json := readWithin nestingLimit text

end ProtoSchema.Json
