import ProtoSchema.Proofs.CommandLine.Spelling

set_option autoImplicit false

namespace ProtoSchema.CommandLine

variable {allowed : List Key} {given : List Given}

end ProtoSchema.CommandLine
