import Mathlib.Data.List.TakeWhile
import ProtoSchema.CommandLine.Arguments

set_option autoImplicit false

namespace ProtoSchema.CommandLine

namespace Key

end Key

def addAll (given options : List Given) : Option (List Given) :=
  options.foldlM (fun given option => addGiven given option.key option.value) given

section Steps

variable {allowed : List Key} {given next : List Given} {text : String}

end Steps

end ProtoSchema.CommandLine
