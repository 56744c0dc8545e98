import DBus.Bindings.Project
import DBus.Bindings.Synthesis
import DBus.Bus.Watch
import DBus.Introspect.Load
import DBus.Message
import DBus.Object.Script
import DBus.ObjectPath
import DBus.Signature
import DBus.Wire.Boxed
import DBus.Proofs.Signature.Reading
import DBus.Proofs.Signature.Joining
import DBus.Proofs.Bindings.Generated
import DBus.Proofs.Bindings.Resolve
import DBus.Proofs.Bindings.Signatures
import DBus.Proofs.Bindings.SignatureLimit
import DBus.Proofs.Bindings.ModuleNames
import DBus.Proofs.Wire.Bytes
import DBus.Proofs.Wire.Layout
import DBus.Proofs.Wire.Writing
import DBus.Proofs.Wire.Reading
import DBus.Proofs.Wire.TypeTest
import DBus.Proofs.Wire.RoundTrip
import DBus.Proofs.Wire.Marshalling
import DBus.Proofs.Wire.Storing
import DBus.Proofs.Wire.Loading
import DBus.Proofs.Wire.Decoding
import DBus.Proofs.Wire.Rewriting
import DBus.Proofs.Introspect.OpenElements
import DBus.Proofs.Bindings.Merging
import DBus.Proofs.Bindings.Outcome
import DBus.Proofs.Bindings.Isolation
import DBus.Proofs.Bindings.Routines
import DBus.Proofs.Bindings.Reordering
import DBus.Proofs.Bindings.Qualified
import DBus.Proofs.Bindings.Closure
import DBus.Proofs.Bindings.Passing
import DBus.Proofs.Bindings.Ends
import DBus.Proofs.Bindings.Identifiers
import DBus.Proofs.Bindings.Synthesis
import DBus.Proofs.Bindings.SnakeCase
import DBus.Proofs.Bindings.Words
import DBus.Proofs.Bindings.Naming
import DBus.Proofs.Bindings.ValidIdentifiers
import DBus.Proofs.Introspect.Tree
import DBus.Proofs.Introspect.TreeLoading
import DBus.Proofs.Bus.Runs
import DBus.Proofs.Bus.Delivery
import DBus.Proofs.Wire.Lengths
import DBus.Proofs.Wire.Boxing
import DBus.Proofs.Object.Conversation
import DBus.Proofs.Object.Faults
import DBus.Proofs.Object.Routing
import DBus.Proofs.Object.Properties
import DBus.Proofs.Object.Keeping
import DBus.Proofs.Object.Assignments
import DBus.Proofs.Object.PropertyStore
import DBus.Proofs.Object.PropertyChanges
import DBus.Proofs.Message.ErrorText
import DBus.Proofs.Bus.Ledger
import DBus.Proofs.Bus.Registrations
import DBus.Proofs.Bus.Serials
import DBus.Proofs.Object.Answering
import DBus.Proofs.Bus.Replies
import DBus.Proofs.Bus.Relays
import DBus.Proofs.Wire.Bounds
import DBus.Proofs.Wire.Ending
import DBus.Proofs.Wire.Windows
import DBus.Proofs.Wire.Appending
import DBus.Proofs.Wire.OpenArrays
import DBus.Proofs.Wire.Acceptance
import DBus.Proofs.Wire.Typing
import DBus.Proofs.Wire.Outline
import DBus.Proofs.Markup.Names
import DBus.Proofs.Introspect.Nesting
import DBus.Proofs.Introspect.ChildNodes
import DBus.Proofs.Files.Writing
import DBus.Proofs.Wire.Paths
import DBus.Proofs.Bindings.FileNames
