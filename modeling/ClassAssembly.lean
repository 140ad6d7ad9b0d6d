import ClassAssembly.Name.Basic
import ClassAssembly.Outline.Basic
import ClassAssembly.Text.Hidden
import ClassAssembly.Text.Quoted
import ClassAssembly.Binary64.Basic
import ClassAssembly.Binary64.Shortest
import ClassAssembly.Binary64.Written
import ClassAssembly.Expression
import ClassAssembly.Node.Basic
import ClassAssembly.Node.Kind
import ClassAssembly.Node.Equality
import ClassAssembly.Node.Erasure
import ClassAssembly.Node.Bare
import ClassAssembly.Node.Leaves
import ClassAssembly.Node.Outline
import ClassAssembly.ClassDecl.Queries
import ClassAssembly.Log.Logger
import ClassAssembly.Builder.Basic
import ClassAssembly.Builder.Member
import ClassAssembly.Builder.Untyped
import ClassAssembly.Builder.Add
import ClassAssembly.Builder.Operation
import ClassAssembly.Workspace.Basic
import ClassAssembly.Workspace.Offer
import ClassAssembly.Workspace.Step
import ClassAssembly.Proofs.Builder.Adding
import ClassAssembly.Proofs.Builder.History
import ClassAssembly.Proofs.ClassDecl.Queries
import ClassAssembly.Proofs.ClassDecl.Rebuild
import ClassAssembly.Proofs.Builder.Remarks
import ClassAssembly.Proofs.Builder.Likeness
import ClassAssembly.Proofs.Builder.Contents
import ClassAssembly.Proofs.Builder.Trace
import ClassAssembly.Proofs.Builder.Handover
import ClassAssembly.Proofs.Builder.Silence
import ClassAssembly.Proofs.Builder.Pulling
import ClassAssembly.Proofs.Builder.Rejection
import ClassAssembly.Proofs.Workspace.Offers
import ClassAssembly.Proofs.Workspace.Steps
import ClassAssembly.Proofs.Workspace.Acts
import ClassAssembly.Proofs.Workspace.Isolation
import ClassAssembly.Proofs.Text.Quoted
import ClassAssembly.Proofs.Outline.Reading
import ClassAssembly.Proofs.Outline.Forms
import ClassAssembly.Proofs.Node.Bare
import ClassAssembly.Proofs.Builder.Reading
import ClassAssembly.Proofs.Name.Form
import ClassAssembly.Proofs.Name.Joining
import ClassAssembly.Proofs.ClassDecl.MethodSearch
import ClassAssembly.Proofs.Builder.FirstMethod
import ClassAssembly.Proofs.Name.Telling
import ClassAssembly.Proofs.Builder.LogFile
import ClassAssembly.Proofs.Binary64.Written
import ClassAssembly.Proofs.Outline.Flattening
import ClassAssembly.Proofs.Builder.Layouts
