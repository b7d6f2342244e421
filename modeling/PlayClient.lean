import PlayClient.Main
import PlayClient.Proofs.Naming.Identifier
import PlayClient.Proofs.Client.Acceptance
import PlayClient.Proofs.Schema.SiblingImports
import PlayClient.Proofs.Client.ModelLines
import PlayClient.Proofs.Schema.OwnImports
import PlayClient.Proofs.Schema.Faults
import PlayClient.Proofs.Client.InvokerFolder
import PlayClient.Proofs.Source.DocComment
import PlayClient.Proofs.FileSystem.Walks
import PlayClient.Proofs.FileSystem.MakeFolders
import PlayClient.Proofs.FileSystem.Save
import PlayClient.Proofs.FileSystem.PlainPaths
import PlayClient.Proofs.Command.Arguments
import PlayClient.Proofs.Client.SupportPaths
import PlayClient.Proofs.Command.SupportFiles
import PlayClient.Proofs.Command.Run
import PlayClient.Proofs.Client.FilesByPath
import PlayClient.Proofs.Client.ModelFiles
import PlayClient.Proofs.Client.ClientFiles
import PlayClient.Proofs.Client.Credentials
import PlayClient.Proofs.Client.ApiBlocks
import PlayClient.Proofs.Client.ResponseOrder
import PlayClient.Proofs.Settings.Options
import PlayClient.Proofs.Client.BuildLiterals
import PlayClient.Proofs.Naming.MethodName
import PlayClient.Proofs.Naming.CamelCase
import PlayClient.Proofs.Client.EmittedNames
import PlayClient.Proofs.Api.SortedCodes
import PlayClient.Proofs.Client.ConfigKey
import PlayClient.Proofs.Client.RequestLiterals
import PlayClient.Proofs.Client.AnnouncedFolders
import PlayClient.Proofs.Source.DocLines
import PlayClient.Proofs.Command.Summary
