import DocBuild.Call.Client
import DocBuild.Call.Job
import DocBuild.Settings
import DocBuild.Payload.Call
import DocBuild.Proofs.Lookup
import DocBuild.Proofs.Build.Key
import DocBuild.Proofs.Build.Drafting
import DocBuild.Proofs.Build.Registration
import DocBuild.Proofs.Build.History
import DocBuild.Proofs.Json.Members
import DocBuild.Proofs.Build.Member
import DocBuild.Proofs.Build.Reference
import DocBuild.Proofs.Build.Correspondence
import DocBuild.Proofs.Build.Rollback
import DocBuild.Proofs.Build.Options
import DocBuild.Proofs.Build.Lossless
import DocBuild.Proofs.Session.Handing
import DocBuild.Proofs.Payload.Obtained
import DocBuild.Proofs.Payload.Released
import DocBuild.Proofs.Payload.Obtainable
import DocBuild.Proofs.Job.Turn
import DocBuild.Proofs.Job.Asking
import DocBuild.Proofs.Job.Interleaving
import DocBuild.Proofs.Job.Dispatch
import DocBuild.Proofs.Job.Steps
import DocBuild.Proofs.Job.Account
import DocBuild.Proofs.Job.Release
import DocBuild.Proofs.Pages.Kept
import DocBuild.Proofs.Pages.Sheet
import DocBuild.Proofs.Pages.Resolved
import DocBuild.Proofs.Client.Sending
import DocBuild.Proofs.Client.Loading
import DocBuild.Proofs.Client.Deleting
import DocBuild.Proofs.Client.Inserting
import DocBuild.Proofs.Client.Rotating
import DocBuild.Proofs.Client.Splitting
import DocBuild.Proofs.Payload.Held
import DocBuild.Proofs.Service.Form
import DocBuild.Proofs.Job.Upload
import DocBuild.Proofs.Secrecy.Agreement
import DocBuild.Proofs.Secrecy.Sending
import DocBuild.Proofs.Secrecy.Client
import DocBuild.Proofs.Secrecy.Caller
import DocBuild.Proofs.Job.Offers
import DocBuild.Proofs.Job.Stages
import DocBuild.Proofs.Pdf.Cutting
import DocBuild.Proofs.Pdf.Header
import DocBuild.Proofs.Pdf.Rendering
import DocBuild.Proofs.Pdf.PageTree
import DocBuild.Proofs.Client.Source
import DocBuild.Proofs.Client.Uploading
import DocBuild.Proofs.Client.PageOperations
import DocBuild.Proofs.Service.Escaping
import DocBuild.Proofs.Payload.Escaping
import DocBuild.Proofs.Job.Ending
import DocBuild.Proofs.Service.Carrying
import DocBuild.Proofs.Job.Answer
import DocBuild.Proofs.Job.Analysing
import DocBuild.Proofs.Client.SingleBuild
import DocBuild.Proofs.Pdf.FirstHeader
import DocBuild.Proofs.Pdf.Table
import DocBuild.Proofs.Pdf.Updating
import DocBuild.Proofs.Pdf.Counting
import DocBuild.Proofs.Client.Duplicating
import DocBuild.Proofs.Payload.Failing
import DocBuild.Proofs.Job.Failing
import DocBuild.Proofs.Text.Words
import DocBuild.Proofs.Log.Masking
import DocBuild.Proofs.Job.Applying
import DocBuild.Proofs.Service.Refusing
import DocBuild.Proofs.Service.Authorizing
import DocBuild.Proofs.Log.Settled
import DocBuild.Proofs.Payload.Naming
import DocBuild.Proofs.Payload.Ignoring
import DocBuild.Proofs.Payload.Classifying
import DocBuild.Proofs.Payload.Calling
import DocBuild.Proofs.Text.Decoding
import DocBuild.Proofs.Url.FileName
import DocBuild.Proofs.Client.Merging
import DocBuild.Proofs.Status.Accepting
import DocBuild.Proofs.Status.Running
import DocBuild.Proofs.Status.Client
