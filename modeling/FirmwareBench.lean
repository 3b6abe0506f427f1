import FirmwareBench.Main
import FirmwareBench.Proofs.Build.ReferenceChain
import FirmwareBench.Proofs.Build.Grammar
import FirmwareBench.Proofs.Build.Meaning
import FirmwareBench.Proofs.Build.Concatenation
import FirmwareBench.Proofs.Build.Escaping
import FirmwareBench.Proofs.Build.Dependence
import FirmwareBench.Proofs.Build.Listing
import FirmwareBench.Proofs.Build.History
import FirmwareBench.Proofs.Fetch.Calls
import FirmwareBench.Proofs.Fetch.FirstFailure
import FirmwareBench.Proofs.Pattern.QuotedText
import FirmwareBench.Proofs.Pattern.Threads
import FirmwareBench.Proofs.Fetch.LinkPattern
import FirmwareBench.Proofs.Fetch.FirstLink
import FirmwareBench.Proofs.Fetch.DryRun
import FirmwareBench.Proofs.Matrix.Expansion
import FirmwareBench.Proofs.Toolchain.Written
import FirmwareBench.Proofs.Toolchain.Order
import FirmwareBench.Proofs.Toolchain.Ranking
import FirmwareBench.Proofs.Fetch.Account
import FirmwareBench.Proofs.Fetch.Independence
import FirmwareBench.Proofs.Fetch.SetUp
import FirmwareBench.Proofs.Fetch.Rendering
import FirmwareBench.Proofs.Matrix.Narrowing
import FirmwareBench.Proofs.Matrix.Execution
import FirmwareBench.Proofs.Matrix.Rendering
import FirmwareBench.Proofs.Matrix.Faults
import FirmwareBench.Proofs.Toolchain.Probing
import FirmwareBench.Proofs.Toolchain.Carried
import FirmwareBench.Proofs.Toolchain.Searching
import FirmwareBench.Proofs.Matrix.Repetition
import FirmwareBench.Proofs.Build.NormalForm
import FirmwareBench.Proofs.Fetch.Selecting
import FirmwareBench.Proofs.FileTree.Workspace
import FirmwareBench.Proofs.Build.Assignment
import FirmwareBench.Proofs.FileTree.Reading
